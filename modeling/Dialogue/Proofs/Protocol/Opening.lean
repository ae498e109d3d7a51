import Dialogue.Pool
import Dialogue.Proofs.Protocol.Loading
import Dialogue.Proofs.Run.Exchange
/-!
# The session that is opened

A run that opens a session creates a target, attaches to it and goes on in the session that this has
given.  Both ids come out of the responses to its own two frames, and nothing else can put them into
the state: what the options say of a target or a session is written over before it is read again.
So the value of a run is made of the two ids it was answered, and every frame after the second one
is scoped to the second of them, where that is a text.

The pool reads a handle out of such a value exactly where both ids are texts.
-/

namespace Dialogue

/-- The frames of some calls under consecutive ids. -/
def numberedFrames (id : CallId) : List Call → List Json
  | [] => []
  | call :: rest => call.toFrame id :: numberedFrames (id + 1) rest

/-- A call with fixed parameters, and the wait for its response, of which nothing is extracted. -/
structure Exchange where
  name : String
  method : String
  params : Table Json := .empty
  awaiting : String

namespace Exchange

def steps (exchange : Exchange) : List Step :=
  [⟨exchange.name, .call { method := exchange.method, defaults := exchange.params }⟩,
    ⟨exchange.awaiting, .await (.response {})⟩]

/-- The call of an exchange in a session. -/
def call (session : Option String) (exchange : Exchange) : Call :=
  ⟨exchange.method, exchange.params, session⟩

end Exchange

namespace Protocol

/-! ### The parts of opening -/

/-- The exchanges that make an attached session ready. -/
def preparing (offline : Bool) : List Exchange :=
  [{ name := "enable_page", method := "Page.enable", awaiting := "page_enabled" },
    { name := "enable_runtime", method := "Runtime.enable", awaiting := "runtime_enabled" }] ++
  if offline then
    [{ name := "emulate_offline", method := "Network.emulateNetworkConditions"
       params := .ofList
        [("offline", .bool true), ("latency", .word 0), ("downloadThroughput", .word 0),
          ("uploadThroughput", .word 0)]
       awaiting := "offline_emulated" }]
  else []

/-- The step that returns both ids. -/
def returningStep : Step :=
  ⟨"targetId,sessionId", .output (.many ["targetId", "sessionId"])⟩

/-- A target is created and attached to, whatever the options are.  One of them decides on what
follows. -/
theorem spawnSession_steps (options : Options) :
    spawnSession.steps options =
      ⟨"create_target",
        .call { method := "Target.createTarget"
                defaults := .ofList [("url", .str "about:blank")] }⟩ ::
      ⟨"target_created", .await (.response { extract := [.bare "targetId"] })⟩ ::
      ⟨"attach_to_target",
        .call { method := "Target.attachToTarget"
                params := .keys [.bare "targetId"]
                defaults := .ofList [("flatten", .bool true)] }⟩ ::
      ⟨"attached", .await (.response { extract := [.bare "sessionId"] })⟩ ::
      ((preparing (options.contains "offline")).flatMap Exchange.steps ++ [returningStep]) := by
  rw [Script.steps, spawnSession, ← guardHolds_none]
  simp only [scanElements, Element.awaitResponse, Element.outputMany, Element.steps]
  cases guardHolds options "offline" none <;> rfl

end Protocol

/-! ### The attached session -/

/-- The state holds both ids. -/
structure State.Attached (state : State) (targetId sessionId : Json) : Prop where
  target : state.get? "targetId" = some targetId
  session : state.get? sessionIdKey = some sessionId

section
variable {link : Link} {state : State} {nextId : CallId} {queue : List Arrival}
  {value targetId sessionId : Json}

/-- What the two exchanges extract is held, whatever the state said of either id before. -/
theorem State.attached_of_extracted (state : State) (createId attachId : CallId) :
    State.Attached ((((state.insert lastCallIdKey (.word createId)).insert "targetId"
      targetId).insert lastCallIdKey (.word attachId)).insert "sessionId" sessionId)
      targetId sessionId where
  target := by simp [State.get?_insert, lastCallIdKey]
  session := by simp [State.get?_insert, sessionIdKey]

/-- The id of another call leaves both ids alone. -/
theorem State.Attached.note (attached : state.Attached targetId sessionId) (id : CallId) :
    (state.insert lastCallIdKey (.word id)).Attached targetId sessionId where
  target := by rw [State.get?_insert, if_neg (by decide), attached.target]
  session := by rw [State.get?_insert, if_neg (by decide), attached.session]

/-- A run in which a session is attached is scoped to it, where its id is a text. -/
theorem State.Attached.sessionId?_eq (attached : state.Attached targetId sessionId) :
    state.sessionId? = sessionId.asString? := by
  rw [State.sessionId?, attached.session]
  rfl

/-- Both ids are returned as they are held. -/
theorem value_of_attached (attached : state.Attached targetId sessionId)
    (returned : (execute link [Protocol.returningStep] state nextId queue).result = .ok value) :
    value = .object [("targetId", targetId), ("sessionId", sessionId)] ∧
      (execute link [Protocol.returningStep] state nextId queue).sent = [] := by
  obtain ⟨projected, sent⟩ := project_of_result_ok returned
  have session : state.get? "sessionId" = some sessionId := attached.session
  simp only [OutputSpec.project, collectOutputs, State.fetch, attached.target, session, bind,
    Except.bind, pure, Except.pure, Except.ok.injEq] at projected
  exact ⟨projected.symm, sent⟩

/-- A run that has attached a session and then makes some exchanges returns both ids, and has sent
the calls of the exchanges in that session. -/
theorem opened_of_attached (exchanges : List Exchange)
    (attached : state.Attached targetId sessionId)
    (returned :
      (execute link (exchanges.flatMap Exchange.steps ++ [Protocol.returningStep]) state nextId
        queue).result = .ok value) :
    value = .object [("targetId", targetId), ("sessionId", sessionId)] ∧
      (execute link (exchanges.flatMap Exchange.steps ++ [Protocol.returningStep]) state nextId
        queue).sent =
        numberedFrames nextId (exchanges.map (Exchange.call sessionId.asString?)) := by
  induction exchanges generalizing state nextId queue with
  | nil => exact value_of_attached attached returned
  | cons exchange rest inductionHypothesis =>
      simp only [List.flatMap_cons, Exchange.steps, List.cons_append, List.nil_append]
        at returned ⊢
      obtain ⟨params, result, error, next, later, resolved, -, -, extracted, continued, sent⟩ :=
        exchange_of_result_ok returned
      obtain rfl : exchange.params = params := Except.ok.inj resolved
      obtain rfl : state.insert lastCallIdKey (.word nextId) = next := Except.ok.inj extracted
      obtain ⟨output, sentLater⟩ := inductionHypothesis (attached.note nextId) continued
      refine ⟨output, ?_⟩
      rw [sent, sentLater, attached.sessionId?_eq]
      rfl

end

/-- Frames of calls in one session are scoped to it. -/
theorem field?_sessionId_of_mem_numberedFrames {calls : List Call} {session : Option String}
    (same : ∀ call ∈ calls, call.sessionId = session) (id : CallId) :
    ∀ frame ∈ numberedFrames id calls, frame.field? sessionIdKey = session.map .str := by
  induction calls generalizing id with
  | nil => simp [numberedFrames]
  | cons call rest inductionHypothesis =>
      obtain ⟨here, later⟩ := List.forall_mem_cons.mp same
      intro frame member
      rcases List.mem_cons.mp member with rfl | member
      · rw [field?_sessionId_toFrame, here]
      · exact inductionHypothesis later (id + 1) frame member

/-! ### Handles -/

/-- A text is read exactly from a member that is one. -/
theorem spawnedField_eq_ok_iff {output : Json} {key text : String} :
    spawnedField output key = .ok text ↔ output.field? key = some (.str text) := by
  rw [spawnedField]
  cases found : output.field? key with
  | none => simp
  | some member => cases member <;> simp [Json.asString?]

/-- A handle is read exactly from an output whose two ids are texts.  It is idle and has these
ids. -/
theorem ofSpawned_eq_ok_iff {output : Json} {handle : SessionHandle} :
    SessionHandle.ofSpawned output = .ok handle ↔
      output.field? "sessionId" = some (.str handle.sessionId) ∧
        output.field? "targetId" = some (.str handle.targetId) ∧ handle.inUse = false := by
  rw [← spawnedField_eq_ok_iff, ← spawnedField_eq_ok_iff, SessionHandle.ofSpawned]
  obtain ⟨sessionId, targetId, inUse⟩ := handle
  cases session : spawnedField output "sessionId" with
  | error cause => simp [bind, Except.bind]
  | ok session =>
      cases target : spawnedField output "targetId" with
      | error cause => simp [bind, Except.bind]
      | ok target => simp [bind, Except.bind, pure, Except.pure, and_comm, eq_comm]

/-! ### Whole runs -/

/-- The calls of a run that opens a session.  Two are made in the session that the run begins with,
and the others in the one that they attach. -/
def openingCalls (initial : Option String) (targetId sessionId : Json) (offline : Bool) :
    List Call :=
  ⟨"Target.createTarget", .ofList [("url", .str "about:blank")], initial⟩ ::
    ⟨"Target.attachToTarget", .ofList [("flatten", .bool true), ("targetId", targetId)],
      initial⟩ ::
    (Protocol.preparing offline).map (Exchange.call sessionId.asString?)

/-- The first two frames are answered with a target and with a session, each id in the result of the
first response to its frame.  The second response comes after the first. -/
inductive AnsweredOpening (firstId : CallId) (arrivals : List Arrival) : Json → Json → Prop where
  | intro {created attached targetId sessionId : Json} {between later : List Arrival}
      (creation : Answered firstId (some created) none arrivals between)
      (target : created.field? "targetId" = some targetId)
      (attachment : Answered (firstId + 1) (some attached) none between later)
      (session : attached.field? "sessionId" = some sessionId) :
      AnsweredOpening firstId arrivals targetId sessionId

/-- What a run that opened a session has to do with the ids that its first two frames were answered
with. -/
structure SessionOpened (initial : Option String) (offline : Bool) (firstId : CallId)
    (arrivals : List Arrival) (sent : List Json) (value targetId sessionId : Json) : Prop where
  answers : AnsweredOpening firstId arrivals targetId sessionId
  output : value = .object [("targetId", targetId), ("sessionId", sessionId)]
  frames : sent = numberedFrames firstId (openingCalls initial targetId sessionId offline)
  /-- The first two frames are scoped to the session that the run began with. -/
  initially : ∀ frame ∈ sent.take 2, frame.field? sessionIdKey = initial.map .str
  /-- The later frames are scoped to the session that is returned. -/
  attached : ∀ frame ∈ sent.drop 2,
    frame.field? sessionIdKey = ((value.field? "sessionId").bind Json.asString?).map .str
  /-- The pool can use what is returned if both ids are texts, and only then. -/
  handle : ∀ handle, SessionHandle.ofSpawned value = .ok handle ↔
    ∃ target session, targetId = .str target ∧ sessionId = .str session ∧
      handle = { sessionId := session, targetId := target, inUse := false }

/-- The object of both ids has them as its members. -/
theorem field?_object_of_ids (targetId sessionId : Json) :
    let ids := Json.object [("targetId", targetId), ("sessionId", sessionId)]
    ids.field? "targetId" = some targetId ∧ ids.field? "sessionId" = some sessionId := by
  constructor <;>
    simp [Json.field?, Json.object, Json.asObject?, Table.ofList, Table.get?_insertAll,
      Table.lookup]

/-- The scopes of the frames follow from the calls, and what the pool makes of the value from its
members. -/
theorem sessionOpened_of_answers {initial : Option String} {offline : Bool} {firstId : CallId}
    {arrivals : List Arrival} {targetId sessionId : Json}
    (answers : AnsweredOpening firstId arrivals targetId sessionId) :
    SessionOpened initial offline firstId arrivals
      (numberedFrames firstId (openingCalls initial targetId sessionId offline))
      (.object [("targetId", targetId), ("sessionId", sessionId)]) targetId sessionId := by
  obtain ⟨targetMember, sessionMember⟩ := field?_object_of_ids targetId sessionId
  constructor
  case answers => exact answers
  case output => rfl
  case frames => rfl
  case initially =>
    have same : ∀ call ∈ (openingCalls initial targetId sessionId offline).take 2,
        call.sessionId = initial := by
      simp [openingCalls]
    exact field?_sessionId_of_mem_numberedFrames same firstId
  case attached =>
    have same : ∀ call ∈ (openingCalls initial targetId sessionId offline).drop 2,
        call.sessionId = sessionId.asString? := by
      simp [openingCalls, Exchange.call]
    rw [sessionMember]
    exact field?_sessionId_of_mem_numberedFrames same (firstId + 1 + 1)
  case handle =>
    rintro ⟨session, target, inUse⟩
    rw [ofSpawned_eq_ok_iff, sessionMember, targetMember]
    simp only [Option.some.injEq, SessionHandle.mk.injEq]
    constructor
    · rintro ⟨rfl, rfl, rfl⟩
      exact ⟨target, session, rfl, rfl, rfl, rfl, rfl⟩
    · rintro ⟨_, _, rfl, rfl, rfl, rfl, rfl⟩
      exact ⟨rfl, rfl, rfl⟩

/-- A run that opens a session returns and uses the one that it has attached.  Let a session be
opened under any options, from any session and whatever the run receives.  If the run returns a
value, that is the object of two ids: of the target that its first frame was answered with, and
which its second frame attaches to, and of the session that this second frame was answered with.
The first two frames are sent in the session that the run began with, and all others in the one that
is returned if its id is a text, and else in none.  So nothing that the options say of a target or a
session comes through. -/
theorem opened_session_is_attached_one (session : Option String) (options : Options) (link : Link)
    (firstId : CallId) (queue : List Arrival) (value : Json)
    (returned : ((Instance.forOptionalSession Protocol.spawnSession session options).run link
      firstId queue).result = .ok value) :
    let subject := Instance.forOptionalSession Protocol.spawnSession session options
    ∃ targetId sessionId,
      SessionOpened subject.state.sessionId? (options.contains "offline") firstId queue
        (subject.run link firstId queue).sent value targetId sessionId := by
  obtain ⟨effective, made, same⟩ :=
    exists_options_of_session Protocol.spawnSession session options
  have offline : effective.contains "offline" = options.contains "offline" := by
    rw [Table.contains, Table.contains, same _ (by decide)]
  simp only [made, Instance.run, Instance.new, Protocol.spawnSession_steps, offline]
    at returned ⊢
  obtain ⟨params, created, targetId, between, resolved, creation, target, continued, sent⟩ :=
    exchange_of_one_field rfl returned
  cases resolved
  obtain ⟨params, attached, sessionId, later, resolved, attachment, session, continued, sentNext⟩ :=
    exchange_of_one_field rfl continued
  obtain ⟨yielded, collected, rfl⟩ := resolveParams_eq_ok resolved
  obtain ⟨used, known, collected⟩ := collectParams_cons_inv collected
  cases collected
  obtain rfl : targetId = used := by
    rw [KeySpec.path, State.at?_singleton, State.get?_insert, if_pos rfl] at known
    exact Option.some.inj known
  obtain ⟨rfl, sentLater⟩ :=
    opened_of_attached _ (State.attached_of_extracted _ firstId (firstId + 1)) continued
  refine ⟨targetId, sessionId, ?_⟩
  have frames := sent.trans (congrArg _ (sentNext.trans (congrArg _ sentLater)))
  rw [frames, State.sessionId?_insert_of_ne (by decide), State.sessionId?_insert_of_ne (by decide)]
  exact sessionOpened_of_answers (.intro creation target attachment session)

/-- Options that name another target and another session than those that are opened. -/
def staleOpening : Instance :=
  .forOptionalSession Protocol.spawnSession (some "B")
    (.ofList [("offline", .bool false), ("sessionId", .str "S0"), ("targetId", .str "T0")])

/-- What a browser has to say, among it a response that comes before its frame and one that comes
twice. -/
def browserArrivals : List Arrival :=
  let answer (id : CallId) (members : List (String × Json)) : Arrival :=
    .message (.response id (some (.object members)) none)
  [answer 2 [("sessionId", .str "S1")], answer 1 [("targetId", .str "T")],
    answer 1 [("targetId", .str "T1")], answer 2 [("sessionId", .str "S")], answer 3 [],
    answer 4 [], answer 5 []]

/-- The ids of the first responses are returned and make up a handle. -/
theorem staleOpening_returns_attached_session :
    let value := Json.object [("targetId", .str "T"), ("sessionId", .str "S")]
    let report := staleOpening.run {} 1 browserArrivals
    report.result = .ok value ∧
      SessionOpened (some "B") true 1 browserArrivals report.sent value (.str "T") (.str "S") ∧
      SessionHandle.ofSpawned value = .ok { sessionId := "S", targetId := "T" } := by
  intro value report
  have returned : report.result = .ok value := rfl
  obtain ⟨targetId, sessionId, opened⟩ :=
    opened_session_is_attached_one (some "B") _ {} 1 browserArrivals value returned
  have members := field?_object_of_ids targetId sessionId
  rw [← opened.output] at members
  obtain rfl : .str "T" = targetId := Option.some.inj members.1
  obtain rfl : .str "S" = sessionId := Option.some.inj members.2
  exact ⟨returned, opened, (opened.handle _).mpr ⟨"T", "S", rfl, rfl, rfl⟩⟩

end Dialogue

import Dialogue.Proofs.Run.Reference
import Dialogue.Run.Transport
/-!
# Runs over a transport

A transport carries a link if it takes frames where the link's other side listens, hands out the
messages of a queue in order, and then ends as the link does.  Steps are executed over such a
transport exactly as over the queue (`Carries.execute`).  A replay carries a link whose arrivals end
with the connection.  A pair of channels carries one that ends so if the far end is let go of, and
one that ends in silence if it is held.

So it makes no difference which of the transports a run has, except that a step which would find the
connection gone waits in vain as long as somebody might still put a message into the channel.
-/

namespace Dialogue

/-- The result of a wait: the state in which its step is satisfied, or why it is not. -/
def WaitEnd.result : WaitEnd → Except RunError State
  | .satisfied state => .ok state
  | .stopped error _ => .error error

/-- A step that waits skips the noise before the next message, and waits in vain if there is
none. -/
theorem awaitStep_nextMessage (link : Link) (step : String) (handler : AwaitHandler)
    (state : State) (queue : List Arrival) :
    awaitStep link step handler state queue =
      match Arrival.nextMessage queue with
      | (some message, warnings, rest) =>
          (awaitStep link step handler state (.message message :: rest)).afterWarnings warnings
      | (none, warnings, _) => (awaitStep link step handler state []).afterWarnings warnings := by
  induction queue with
  | nil => rfl
  | cons arrival later inductionHypothesis =>
      cases arrival with
      | message message => rfl
      | noise reason =>
          change (awaitStep link step handler state later).afterWarnings _ = _
          rw [inductionHypothesis, Arrival.nextMessage]
          rcases Arrival.nextMessage later with ⟨_ | message, warnings, rest⟩ <;> rfl

/-- A queue without a message is used up by looking for one. -/
theorem Arrival.eq_nil_of_nextMessage {queue rest : List Arrival} {warnings : List Warning}
    (next : nextMessage queue = (none, warnings, rest)) : rest = [] := by
  induction queue generalizing warnings with
  | nil =>
      cases next
      rfl
  | cons arrival later inductionHypothesis =>
      cases arrival with
      | message message => cases next
      | noise reason =>
          rcases found : nextMessage later with ⟨first, before, left⟩
          rw [nextMessage, found] at next
          cases next
          exact inductionHypothesis found

/-! ### Transports that carry a link -/

/-- The transport carries the link.  `Shows` tells which arrivals are still to come over a
connection, and which frames were sent over it. -/
structure Carries {Connection : Type} [Transport Connection] (link : Link)
    (Shows : Connection → List Arrival → List Json → Prop) : Prop where
  send : ∀ {connection queue sent}, Shows connection queue sent → link.peerListens = true →
    ∀ frame, ∃ after, Transport.send connection frame = some after ∧
      Shows after queue (sent ++ [frame])
  refuse : ∀ {connection queue sent}, Shows connection queue sent → link.peerListens = false →
    ∀ frame, Transport.send connection frame = none
  receive : ∀ {connection queue sent message warnings rest}, Shows connection queue sent →
    Arrival.nextMessage queue = (some message, warnings, rest) →
      ∃ after, Transport.receive connection = .message message after ∧ Shows after rest sent
  gone : ∀ {connection queue sent warnings rest}, Shows connection queue sent →
    Arrival.nextMessage queue = (none, warnings, rest) → link.ending = .closed →
      ∃ after, Transport.receive connection = .gone after ∧ Shows after [] sent
  silent : ∀ {connection queue sent warnings rest}, Shows connection queue sent →
    Arrival.nextMessage queue = (none, warnings, rest) → link.ending = .silent →
      ∃ after, Transport.receive connection = .nothing after ∧ Shows after [] sent

namespace Carries

variable {Connection : Type} [Transport Connection] {link : Link}
  {Shows : Connection → List Arrival → List Json → Prop} {connection : Connection}
  {queue : List Arrival} {sent : List Json}

/-- A step waits over a transport as it waits for the arrivals of the link. -/
theorem awaitStep (carries : Carries link Shows) (shown : Shows connection queue sent)
    (step : String) (handler : AwaitHandler) (state : State) :
    let wait := Dialogue.awaitStep link step handler state queue
    let waited := Transport.awaitStep link.timeout step handler state connection
    waited.1 = wait.ended.result ∧ Shows waited.2 wait.remaining sent := by
  generalize size : queue.length = bound
  induction bound using Nat.strongRecOn generalizing queue state connection with
  | ind bound inductionHypothesis =>
      rw [awaitStep_nextMessage]
      rcases next : Arrival.nextMessage queue with ⟨_ | message, warnings, rest⟩
      · cases ending : link.ending with
        | closed =>
            obtain ⟨after, received, shows⟩ := carries.gone shown next ending
            rw [Transport.awaitStep_of_gone received]
            simp [Dialogue.awaitStep, Wait.afterWarnings, WaitEnd.result, Link.starved, ending,
              shows]
        | silent =>
            obtain ⟨after, received, shows⟩ := carries.silent shown next ending
            rw [Transport.awaitStep_of_nothing received]
            simp [Dialogue.awaitStep, Wait.afterWarnings, WaitEnd.result, Link.starved, ending,
              shows]
      · obtain ⟨after, received, shows⟩ := carries.receive shown next
        have shorter : rest.length < bound := size ▸ Arrival.length_lt_of_nextMessage next
        have later := fun state => inductionHypothesis rest.length shorter shows state rfl
        rw [Transport.awaitStep_of_message received]
        simp only [Dialogue.awaitStep]
        cases offered : handler.offer state message with
        | error cause => exact ⟨rfl, shows⟩
        | ok reaction =>
            cases reaction with
            | dropped => exact later state
            | kept next => exact later next
            | satisfied next => exact ⟨rfl, shows⟩
            | failed failure => exact ⟨rfl, shows⟩

/-- Steps are executed over a transport as over the arrivals of the link. -/
theorem execute (carries : Carries link Shows) (shown : Shows connection queue sent)
    (steps : List Step) (state : State) (nextId : CallId) :
    let report := Dialogue.execute link steps state nextId queue
    let executed := Transport.execute link.timeout steps state nextId connection
    executed.result = report.result ∧ executed.nextId = report.nextId ∧
      Shows executed.connection report.remaining (sent ++ report.sent) := by
  induction steps generalizing state nextId connection queue sent with
  | nil => exact ⟨rfl, rfl, by simpa [Dialogue.execute, Transport.execute] using shown⟩
  | cons step rest inductionHypothesis =>
      obtain ⟨name, action⟩ := step
      have ends : Shows connection queue (sent ++ []) := by simpa using shown
      rw [Dialogue.execute, Transport.execute]
      cases action with
      | call spec =>
          simp only [CallId.draw_eq]
          cases issued : spec.issue state nextId with
          | error cause =>
              simp only [Report.result, true_and]
              exact ends
          | ok outcome =>
              obtain ⟨next, call⟩ := outcome
              cases listening : link.peerListens with
              | true =>
                  obtain ⟨after, taken, shows⟩ := carries.send shown listening (call.toFrame nextId)
                  obtain ⟨sameResult, sameId, later⟩ := inductionHypothesis shows next (nextId + 1)
                  rw [List.append_assoc] at later
                  simp only [taken, if_true]
                  exact ⟨sameResult, sameId, later⟩
              | false =>
                  simp only [carries.refuse shown listening, Bool.false_eq_true, if_false,
                    Report.result, true_and]
                  exact ends
      | output spec =>
          cases projected : spec.project state with
          | error cause =>
              simp only [projected, Report.result, true_and]
              exact ends
          | ok value =>
              simp only [projected, Report.result, true_and]
              exact ends
      | await handler =>
          have waits := carries.awaitStep shown name handler state
          rcases waited : Transport.awaitStep link.timeout name handler state connection with
            ⟨result, after⟩
          simp only [waited] at waits ⊢
          obtain ⟨rfl, shows⟩ := waits
          cases (Dialogue.awaitStep link name handler state queue).ended with
          | satisfied next => exact inductionHypothesis shows next nextId
          | stopped error reached =>
              rw [← List.append_nil sent] at shows
              exact ⟨rfl, rfl, shows⟩

/-- An instance runs over a transport as over the arrivals of the link. -/
theorem runOver (carries : Carries link Shows) (shown : Shows connection queue [])
    (subject : Instance) (firstId : CallId) :
    let report := subject.run link firstId queue
    let ran := subject.runOver link.timeout firstId connection
    ran.result = report.result ∧ Shows ran.connection report.remaining report.sent := by
  obtain ⟨sameResult, -, shows⟩ := carries.execute shown subject.steps subject.state firstId
  exact ⟨sameResult, shows⟩

end Carries

/-! ### The two transports -/

/-- What a replay shows. -/
def Replay.Shows (replay : Replay) (queue : List Arrival) (sent : List Json) : Prop :=
  replay.incoming = queue ∧ replay.sent = sent

/-- A replay carries a link whose arrivals end with the connection. -/
theorem Replay.carries (timeout : Nat) : Carries (.replay timeout) Replay.Shows where
  send := by
    rintro replay _ _ ⟨rfl, rfl⟩ _ frame
    exact ⟨{ replay with sent := replay.sent ++ [frame] }, rfl, rfl, rfl⟩
  refuse := by
    intro _ _ _ _ refused
    cases refused
  receive := by
    rintro replay _ _ message warnings rest ⟨rfl, rfl⟩ next
    refine ⟨{ replay with incoming := rest }, ?_, rfl, rfl⟩
    change replay.receive = _
    rw [Replay.receive, next]
  gone := by
    rintro replay _ _ warnings rest ⟨rfl, rfl⟩ next _
    refine ⟨{ replay with incoming := rest }, ?_, ?_, rfl⟩
    · change replay.receive = _
      rw [Replay.receive, next]
    · exact Arrival.eq_nil_of_nextMessage next
  silent := by
    intro _ _ _ _ _ _ _ silent
    cases silent

/-- What a pair of channels shows, as long as the far end of its incoming channel is held or not,
and that of its outgoing one. -/
def ChannelPair.Shows (senderHeld receiverHeld : Bool) (pair : ChannelPair) (queue : List Arrival)
    (sent : List Json) : Prop :=
  pair.incoming.queued.map .message = queue ∧ pair.outgoing.queued = sent ∧
    pair.incoming.senderHeld = senderHeld ∧ pair.outgoing.receiverHeld = receiverHeld

/-- The link between a pair of channels and the task that has their far ends. -/
def Link.channels (timeout : Nat) (senderHeld receiverHeld : Bool) : Link :=
  { timeout, ending := if senderHeld then .silent else .closed, peerListens := receiverHeld }

/-- A pair of channels takes a frame as long as somebody may take it out. -/
theorem ChannelPair.send_eq (pair : ChannelPair) (frame : Json) :
    Transport.send pair frame =
      if pair.outgoing.receiverHeld then
        some { pair with
          outgoing := { pair.outgoing with queued := pair.outgoing.queued ++ [frame] } }
      else none := by
  change (pair.outgoing.put? frame).map _ = _
  rw [Channel.put?]
  split <;> rfl

/-- A pair of channels carries a link that ends with the connection if the far end of its incoming
channel is let go of, and in silence otherwise. -/
theorem ChannelPair.carries (timeout : Nat) (senderHeld receiverHeld : Bool) :
    Carries (.channels timeout senderHeld receiverHeld)
      (ChannelPair.Shows senderHeld receiverHeld) where
  send := by
    rintro pair _ _ ⟨rfl, rfl, rfl, held⟩ listening frame
    rw [ChannelPair.send_eq, if_pos (held.trans listening)]
    exact ⟨_, rfl, rfl, rfl, rfl, held⟩
  refuse := by
    rintro pair _ _ ⟨rfl, rfl, rfl, held⟩ deaf frame
    rw [ChannelPair.send_eq, held.trans deaf]
    rfl
  receive := by
    rintro ⟨outgoing, queued, held, far⟩ _ _ message warnings rest ⟨rfl, rfl, rfl, rfl⟩ next
    cases queued with
    | nil => cases next
    | cons first later =>
        cases next
        exact ⟨{ outgoing, incoming := ⟨later, held, far⟩ }, rfl, rfl, rfl, rfl, rfl⟩
  gone := by
    rintro ⟨outgoing, queued, held, far⟩ _ _ warnings rest ⟨rfl, rfl, rfl, rfl⟩ next ending
    cases queued with
    | cons first later => cases next
    | nil =>
        cases held with
        | true => cases ending
        | false => exact ⟨{ outgoing, incoming := ⟨[], false, far⟩ }, rfl, rfl, rfl, rfl, rfl⟩
  silent := by
    rintro ⟨outgoing, queued, held, far⟩ _ _ warnings rest ⟨rfl, rfl, rfl, rfl⟩ next ending
    cases queued with
    | cons first later => cases next
    | nil =>
        cases held with
        | false => cases ending
        | true => exact ⟨{ outgoing, incoming := ⟨[], true, far⟩ }, rfl, rfl, rfl, rfl, rfl⟩

/-! ### Waiting in vain -/

/-- The error of a run that is told of no end of its arrivals, where it would otherwise end with
this one. -/
def RunError.keptOpen (timeout : Nat) : RunError → RunError
  | .closed step => .timeout step timeout
  | error => error

/-- The link of which the other side stays silent where this one's would let go of it. -/
def Link.keptOpen (link : Link) : Link :=
  { link with ending := .silent }

/-- How the end of a wait changes if it is not told that the arrivals are over. -/
def WaitEnd.keptOpen (timeout : Nat) : WaitEnd → WaitEnd
  | .satisfied state => .satisfied state
  | .stopped error state => .stopped (error.keptOpen timeout) state

/-- A wait changes in its end only. -/
def Wait.keptOpen (timeout : Nat) (wait : Wait) : Wait :=
  { wait with ended := wait.ended.keptOpen timeout }

/-- How the finish of a run changes. -/
def Finish.keptOpen (timeout : Nat) : Finish → Finish
  | .stopped error => .stopped (error.keptOpen timeout)
  | finish => finish

/-- A report changes in its finish only. -/
def Report.keptOpen (timeout : Nat) (report : Report) : Report :=
  { report with finish := report.finish.keptOpen timeout }

/-- A step waits the same over a link that is kept open, up to its end. -/
theorem awaitStep_keptOpen {link : Link} (closed : link.ending = .closed) (step : String)
    (handler : AwaitHandler) (state : State) (queue : List Arrival) :
    awaitStep link.keptOpen step handler state queue =
      (awaitStep link step handler state queue).keptOpen link.timeout := by
  induction queue generalizing state with
  | nil => simp [awaitStep, Link.starved, Link.keptOpen, Wait.keptOpen, WaitEnd.keptOpen,
      RunError.keptOpen, closed]
  | cons arrival rest inductionHypothesis =>
      cases arrival with
      | noise reason =>
          rw [awaitStep, inductionHypothesis, awaitStep]
          rfl
      | message message =>
          rw [awaitStep, awaitStep]
          cases handler.offer state message with
          | error cause => rfl
          | ok reaction =>
              cases reaction with
              | dropped => exact inductionHypothesis state
              | kept next =>
                  exact congrArg (Wait.afterWarnings · (interceptionWarnings state message))
                    (inductionHypothesis next)
              | satisfied next => rfl
              | failed failure => rfl

/-- Steps are executed the same over a link that is kept open, up to the finish. -/
theorem execute_keptOpen {link : Link} (closed : link.ending = .closed) (steps : List Step)
    (state : State) (nextId : CallId) (queue : List Arrival) :
    execute link.keptOpen steps state nextId queue =
      (execute link steps state nextId queue).keptOpen link.timeout := by
  induction steps generalizing state nextId queue with
  | nil => rfl
  | cons step rest inductionHypothesis =>
      obtain ⟨name, action⟩ := step
      rw [execute, execute]
      cases action with
      | call spec =>
          simp only [CallId.draw_eq]
          cases issued : spec.issue state nextId with
          | error cause => rfl
          | ok outcome =>
              obtain ⟨next, call⟩ := outcome
              have sameListening : link.keptOpen.peerListens = link.peerListens := rfl
              simp only [sameListening]
              split
              · exact congrArg (Report.afterSending · (call.toFrame nextId))
                  (inductionHypothesis next (nextId + 1) queue)
              · rfl
      | output spec =>
          cases projected : spec.project state with
          | error cause => simp only [projected]; rfl
          | ok value => simp only [projected]; rfl
      | await handler =>
          simp only [awaitStep_keptOpen closed]
          cases ended : (awaitStep link name handler state queue).ended with
          | satisfied next =>
              simp only [Wait.keptOpen, WaitEnd.keptOpen, ended]
              exact congrArg (Report.afterWarnings · _) (inductionHypothesis next nextId _)
          | stopped error reached =>
              simp only [Wait.keptOpen, WaitEnd.keptOpen, ended]
              rfl

/-- An instance has the same result over a link that is kept open, except that a step waits in vain
where it would find the connection gone.  It sends the same frames. -/
theorem run_keptOpen {link : Link} (closed : link.ending = .closed) (subject : Instance)
    (firstId : CallId) (queue : List Arrival) :
    let report := subject.run link firstId queue
    let kept := subject.run link.keptOpen firstId queue
    kept.result = report.result.mapError (RunError.keptOpen link.timeout) ∧
      kept.sent = report.sent := by
  have changed : subject.run link.keptOpen firstId queue =
      (subject.run link firstId queue).keptOpen link.timeout :=
    execute_keptOpen closed subject.steps subject.state firstId queue
  rw [changed]
  refine ⟨?_, rfl⟩
  rw [Report.keptOpen, Report.result, Report.result]
  cases (subject.run link firstId queue).finish <;> rfl

/-- No step waits in vain over a link whose arrivals end with the connection. -/
theorem run_ne_timeout {link : Link} (closed : link.ending = .closed) (subject : Instance)
    (firstId : CallId) (queue : List Arrival) (step : String) (milliseconds : Nat) :
    (subject.run link firstId queue).result ≠ .error (.timeout step milliseconds) := by
  intro timedOut
  obtain ⟨last, finish, -, halt, finished, -⟩ := run_halts link subject firstId queue
  have stopped : finish = .stopped (.timeout step milliseconds) :=
    finished.symm.trans (Report.finish_of_result_error timedOut)
  generalize given : Finish.stopped (.timeout step milliseconds) = late at stopped
  subst stopped
  cases halt with
  | starved pending exhausted => simp [Link.starved, closed] at given
  | done | output | unprojected | unissued | unsent | rejected | failed => cases given

/-! ### Interchangeable transports -/

/-- Frames that can all be classified arrive as the messages that they are. -/
theorem map_ofJson_of_classified {frames : List Json} {messages : List Message}
    (classified : frames.mapM Message.ofJson = .ok messages) :
    frames.map Arrival.ofJson = messages.map .message := by
  induction frames generalizing messages with
  | nil =>
      cases classified
      rfl
  | cons frame rest inductionHypothesis =>
      rw [List.mapM_cons] at classified
      cases read : Message.ofJson frame with
      | error reason => simp [read, bind, Except.bind] at classified
      | ok message =>
          cases others : rest.mapM Message.ofJson with
          | error reason => simp [read, others, bind, Except.bind] at classified
          | ok later =>
              simp only [read, others, bind, Except.bind, pure, Except.pure, Except.ok.injEq]
                at classified
              subst classified
              rw [List.map_cons, Arrival.ofJson, read, inductionHypothesis others]
              rfl

/-- Everything can be put into a channel as long as somebody may take it out. -/
theorem Channel.putAll?_of_receiverHeld {α : Type} {channel : Channel α}
    (held : channel.receiverHeld = true) (items : List α) :
    channel.putAll? items = some { channel with queued := channel.queued ++ items } := by
  induction items generalizing channel with
  | nil => simp [putAll?]
  | cons item rest inductionHypothesis =>
      have taken : channel.put? item = some { channel with queued := channel.queued ++ [item] } :=
        if_pos held
      have stillHeld : { channel with
          queued := channel.queued ++ [item] : Channel α }.receiverHeld = true := held
      rw [putAll?, taken]
      refine (inductionHypothesis stillHeld).trans ?_
      rw [List.append_assoc, List.singleton_append]

/-- An instance runs over the replay of some frames as over their arrivals. -/
theorem runOver_replay (subject : Instance) (timeout : Nat) (firstId : CallId)
    (frames : List Json) :
    let report := subject.run (.replay timeout) firstId (frames.map Arrival.ofJson)
    let replayed := subject.runOver timeout firstId (Replay.ofFrames frames)
    replayed.result = report.result ∧ replayed.connection.sent = report.sent := by
  obtain ⟨sameResult, shows⟩ :=
    (Replay.carries timeout).runOver (⟨rfl, rfl⟩ : Replay.Shows (.ofFrames frames) _ _)
      subject firstId
  exact ⟨sameResult, shows.2⟩

/-- An instance runs over channels in which some messages are queued as over these messages. -/
theorem runOver_channels (subject : Instance) (timeout : Nat) (firstId : CallId)
    (messages : List Message) (senderHeld : Bool) :
    let report := subject.run (.channels timeout senderHeld true) firstId (messages.map .message)
    let ran := subject.runOver timeout firstId
      ({ incoming := { queued := messages, senderHeld } } : ChannelPair)
    ran.result = report.result ∧ ran.connection.outgoing.queued = report.sent := by
  obtain ⟨sameResult, -, sameSent, -, -⟩ :=
    (ChannelPair.carries timeout senderHeld true).runOver
      (⟨rfl, rfl, rfl, rfl⟩ : ChannelPair.Shows senderHeld true
        { incoming := { queued := messages, senderHeld } } _ _) subject firstId
  exact ⟨sameResult, sameSent⟩

/-- The runs of one instance over a replay, over channels whose far end was let go of once the
messages were in, and over channels whose far end is still held. -/
structure Interchangeable (timeout : Nat) (replayed : Transport.Report Replay)
    (dropped held : Transport.Report ChannelPair) : Prop where
  dropped_result : dropped.result = replayed.result
  dropped_frames : dropped.connection.outgoing.queued = replayed.connection.sent
  /-- The step that finds the connection gone is the one that waits in vain. -/
  held_result : held.result = replayed.result.mapError (RunError.keptOpen timeout)
  held_frames : held.connection.outgoing.queued = replayed.connection.sent
  ne_timeout : ∀ step milliseconds, replayed.result ≠ .error (.timeout step milliseconds)

/-- It makes no difference to a run which transport hands out its messages, as long as all of them
can be classified.  Whether the far end of the channels is let go of decides only if a step that
still waits when they are over finds the connection gone or waits in vain. -/
theorem transports_interchangeable (subject : Instance) (timeout : Nat) (firstId : CallId)
    (frames : List Json) (messages : List Message)
    (classified : frames.mapM Message.ofJson = .ok messages) :
    ∃ filled, Channel.putAll? {} messages = some filled ∧
      Interchangeable timeout (subject.runOver timeout firstId (Replay.ofFrames frames))
        (subject.runOver timeout firstId ({ incoming := filled.dropSender } : ChannelPair))
        (subject.runOver timeout firstId ({ incoming := filled } : ChannelPair)) := by
  have arrived := map_ofJson_of_classified classified
  obtain ⟨replayedResult, replayedSent⟩ := runOver_replay subject timeout firstId frames
  obtain ⟨droppedResult, droppedSent⟩ := runOver_channels subject timeout firstId messages false
  obtain ⟨heldResult, heldSent⟩ := runOver_channels subject timeout firstId messages true
  obtain ⟨keptResult, keptSent⟩ :=
    run_keptOpen (rfl : (Link.replay timeout).ending = .closed) subject firstId
      (messages.map .message)
  rw [arrived] at replayedResult replayedSent
  refine ⟨_, Channel.putAll?_of_receiverHeld rfl messages, ?_⟩
  constructor
  case dropped_result => exact droppedResult.trans replayedResult.symm
  case dropped_frames => exact droppedSent.trans replayedSent.symm
  case held_result =>
    rw [replayedResult]
    exact heldResult.trans keptResult
  case held_frames => exact heldSent.trans (keptSent.trans replayedSent.symm)
  case ne_timeout =>
    rw [replayedResult]
    exact run_ne_timeout rfl subject firstId _

/-- A blank page that is never loaded: the step that waits for it finds the connection gone, or
waits in vain where the far end is held. -/
theorem unloadedReset_interchangeable :
    let subject := Instance.forSession Protocol.resetSession "S" {}
    let answer := Json.object [("id", .word 7), ("result", .object [("frameId", .str "F")])]
    let messages := [Message.response 7 (some (.object [("frameId", .str "F")])) none]
    [answer].mapM Message.ofJson = .ok messages ∧
      ∃ filled, Channel.putAll? {} messages = some filled ∧
        let replayed := subject.runOver 250 7 (Replay.ofFrames [answer])
        let dropped := subject.runOver 250 7 ({ incoming := filled.dropSender } : ChannelPair)
        let held := subject.runOver 250 7 ({ incoming := filled } : ChannelPair)
        Interchangeable 250 replayed dropped held ∧
          dropped.result = .error (.closed "blank_loaded") ∧
          held.result = .error (.timeout "blank_loaded" 250) ∧
          held.connection.outgoing.queued.length = 1 := by
  intro subject answer messages
  have classified : [answer].mapM Message.ofJson = .ok messages := rfl
  obtain ⟨filled, put, same⟩ :=
    transports_interchangeable subject 250 7 [answer] messages classified
  obtain ⟨replayedResult, replayedSent⟩ := runOver_replay subject 250 7 [answer]
  have closed : (subject.runOver 250 7 (Replay.ofFrames [answer])).result =
      .error (.closed "blank_loaded") := replayedResult
  refine ⟨classified, filled, put, same, same.dropped_result.trans closed, ?_, ?_⟩
  · rw [same.held_result, closed]
    rfl
  · rw [same.held_frames, replayedSent]
    rfl

end Dialogue

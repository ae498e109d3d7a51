import Dialogue.Proofs.Frame
import Dialogue.Proofs.Json.Equality
/-!
# Calls are read back from their frames

A call is written as an object of its own and, with an id besides, as the frame that is sent.  It is
read by the names of its three members, and members of other names make no difference to it, so both
objects give the call back and frames of different calls or under different ids are different.

The parameters are a table inside one of the three members.  Parameters that are called like members
of the frame stay in that table and come in no one's way.
-/

namespace Dialogue

namespace Call

variable {call : Call} {members : Table Json}

/-- A session is read back, and where there is none it is not missed. -/
theorem sessionOfJson?_map (session : Option String) :
    sessionOfJson? (session.map Json.str) = some session := by
  cases session <;> rfl

/-- The members of a call by name. -/
theorem lookup_members (call : Call) :
    Table.lookup "method" call.members = some (.str call.method) ∧
    Table.lookup "params" call.members = some (.obj call.params) ∧
    Table.lookup "sessionId" call.members = call.sessionId.map .str := by
  obtain ⟨method, params, session⟩ := call
  cases session <;> exact ⟨rfl, rfl, rfl⟩

/-- An object in which the three members are those of a call is read as the call. -/
theorem ofJson?_of_lookup
    (known : ∀ key ∈ ["method", "params", "sessionId"],
      members.get? key = Table.lookup key call.members) :
    ofJson? (.obj members) = some call := by
  obtain ⟨method, params, session⟩ := call.lookup_members
  simp only [ofJson?, known "method" (by decide), known "params" (by decide),
    known "sessionId" (by decide), method, params, session, sessionOfJson?_map]

/-- A call is read back from its frame. -/
theorem ofJson?_toFrame (call : Call) (id : CallId) : ofJson? (call.toFrame id) = some call := by
  refine ofJson?_of_lookup fun key named => ?_
  have differs : key ≠ "id" := by
    rintro rfl
    exact absurd named (by decide)
  exact (field?_toFrame call id key).trans (if_neg differs)

/-- A call is read back from its own object. -/
theorem ofJson?_toJson (call : Call) : ofJson? call.toJson = some call :=
  ofJson?_of_lookup fun key _ =>
    Table.get?_ofList (List.nodup_cons.mp (call.nodup_frameKeys 0)).2 key

/-- Other parameters change no member of a frame but the one that holds them. -/
theorem field?_toFrame_of_ne {key : String} (call : Call) (params : Table Json) (id : CallId)
    (differs : key ≠ "params") :
    ({ call with params }.toFrame id).field? key = (call.toFrame id).field? key := by
  rw [field?_toFrame, field?_toFrame]
  simp only [Table.lookup, members, if_neg differs]

/-- The calls are equal: they have the same method and session, and equal parameters. -/
structure Equals (one other : Call) : Prop where
  method : one.method = other.method
  params : (Json.obj one.params == .obj other.params) = true
  sessionId : one.sessionId = other.sessionId

/-- Equal frames are those of equal calls under one id. -/
theorem of_toFrame_beq {one other : Call} {id otherId : CallId}
    (same : (one.toFrame id == other.toFrame otherId) = true) : one.Equals other ∧ id = otherId := by
  have member (key : String) := Json.field?_beq same key
  simp only [field?_toFrame] at member
  obtain ⟨method, params, session⟩ := one
  obtain ⟨otherMethod, otherParams, otherSession⟩ := other
  refine ⟨⟨?_, member "params", ?_⟩, ?_⟩
  · exact eq_of_beq (α := String) (member "method")
  · have sessions := member "sessionId"
    cases session <;> cases otherSession
    · rfl
    · cases sessions
    · cases sessions
    · exact congrArg some (eq_of_beq (α := String) sessions)
  · exact eq_of_beq (α := UInt64) (member "id")

end Call

/-- Frames lose nothing of their calls.  For every call and every id the frame is read back as the
call and carries the id, and so is the object that the call is written as.  Frames are the same, or
equal as values, only if their calls are and their ids are the same; and whatever parameters
a call is given, its frame keeps every member but the one that holds them. -/
theorem frames_lose_nothing (call : Call) (id : CallId) :
    Call.ofJson? (call.toFrame id) = some call ∧
    (call.toFrame id).callId? = some id ∧
    Call.ofJson? call.toJson = some call ∧
    (∀ other otherId, call.toFrame id = other.toFrame otherId → call = other ∧ id = otherId) ∧
    (∀ other otherId, (call.toFrame id == other.toFrame otherId) = true →
      call.Equals other ∧ id = otherId) ∧
    ∀ params key, key ≠ "params" →
      ({ call with params }.toFrame id).field? key = (call.toFrame id).field? key := by
  refine ⟨call.ofJson?_toFrame id, callId?_toFrame call id, call.ofJson?_toJson, ?_,
    fun other otherId => Call.of_toFrame_beq, fun params key => call.field?_toFrame_of_ne params id⟩
  intro other otherId same
  have sameCall := call.ofJson?_toFrame id
  have sameId := callId?_toFrame call id
  rw [same, Call.ofJson?_toFrame, Option.some.injEq] at sameCall
  rw [same, callId?_toFrame, Option.some.injEq] at sameId
  exact ⟨sameCall.symm, sameId.symm⟩

/-- A call in an empty session whose parameters are called like the members of a frame. -/
def lookalikeCall : Call :=
  ⟨"Page.enable", .ofList [("id", .word 7), ("method", .null), ("params", .str "none"),
    ("sessionId", .str "T")], some ""⟩

/-- Such parameters leave the frame its id, its method and its session. -/
theorem lookalikeCall_read_back :
    Call.ofJson? (lookalikeCall.toFrame 4) = some lookalikeCall ∧
      (lookalikeCall.toFrame 4).callId? = some 4 ∧
      (lookalikeCall.toFrame 4).field? "sessionId" = some (.str "") ∧
      lookalikeCall.toFrame 4 ≠ lookalikeCall.toFrame 7 := by
  obtain ⟨read, numbered, _, injective, _, own⟩ := frames_lose_nothing lookalikeCall 4
  refine ⟨read, numbered, ?_, fun same => ?_⟩
  · exact (own .empty "sessionId" (by decide)).symm
  · exact absurd (injective lookalikeCall 7 same).2 (by decide)

end Dialogue

import Dialogue.Step
import Dialogue.Proofs.Table.Insertion
/-!
# Calls and frames

Issuing a call resolves its parameters and notes its id in the state, and changes nothing else.  The
id is a member of its own in the frame that is sent, so it can be read back whatever the call is.
-/

namespace Dialogue

/-- The id that a frame carries. -/
def Json.callId? (frame : Json) : Option CallId :=
  (frame.field? "id").bind Json.asWord?

/-- The method that a frame calls. -/
def Json.method? (frame : Json) : Option String :=
  (frame.field? "method").bind Json.asString?

/-- A frame has each of its members once. -/
theorem Call.nodup_frameKeys (call : Call) (id : CallId) :
    ((("id", Json.word id) :: call.members).map Prod.fst).Nodup := by
  obtain ⟨method, params, session⟩ := call
  cases session <;> simp [Call.members]

/-- A frame holds the id and the members of the call, and nothing else. -/
theorem field?_toFrame (call : Call) (id : CallId) (key : String) :
    (call.toFrame id).field? key = Table.lookup key (("id", .word id) :: call.members) :=
  Table.get?_ofList (call.nodup_frameKeys id) key

/-- A frame carries the id that it was made with. -/
@[simp] theorem callId?_toFrame (call : Call) (id : CallId) :
    (call.toFrame id).callId? = some id := by
  rw [Json.callId?, field?_toFrame]
  rfl

/-- A frame names the method of its call. -/
@[simp] theorem method?_toFrame (call : Call) (id : CallId) :
    (call.toFrame id).method? = some call.method := by
  rw [Json.method?, field?_toFrame]
  rfl

/-- A frame holds the parameters of its call. -/
theorem field?_params_toFrame (call : Call) (id : CallId) :
    (call.toFrame id).field? "params" = some (.obj call.params) := by
  rw [field?_toFrame]
  rfl

/-- A frame names the session of its call, and none where the call has none. -/
theorem field?_sessionId_toFrame (call : Call) (id : CallId) :
    (call.toFrame id).field? sessionIdKey = call.sessionId.map .str := by
  rw [field?_toFrame]
  obtain ⟨method, params, session⟩ := call
  cases session <;> rfl

/-- An issued call has resolved parameters and the session of the state, and all that it changes in
the state is the id of the last call. -/
theorem issue_eq_ok {spec : CallSpec} {state next : State} {id : CallId} {call : Call}
    (issued : spec.issue state id = .ok (next, call)) :
    ∃ params, resolveParams state spec.params spec.defaults = .ok params ∧
      next = state.insert lastCallIdKey (.word id) ∧
      call = ⟨spec.method, params, state.sessionId?⟩ := by
  rw [CallSpec.issue] at issued
  cases resolved : resolveParams state spec.params spec.defaults with
  | error cause => simp [resolved, bind, Except.bind] at issued
  | ok params =>
      simp only [resolved, bind, Except.bind, pure, Except.pure, Except.ok.injEq,
        Prod.mk.injEq] at issued
      exact ⟨params, rfl, issued.1.symm, issued.2.symm⟩

/-- Nothing but its parameters can keep a call from being issued. -/
theorem issue_eq_error_iff {spec : CallSpec} {state : State} {id : CallId} {cause : ScriptError} :
    spec.issue state id = .error cause ↔
      resolveParams state spec.params spec.defaults = .error cause := by
  rw [CallSpec.issue]
  cases resolveParams state spec.params spec.defaults <;>
    simp [bind, Except.bind, pure, Except.pure]

/-- Issuing a call leaves every other key as it was. -/
theorem get?_issue {spec : CallSpec} {state next : State} {id : CallId} {call : Call} {key : String}
    (issued : spec.issue state id = .ok (next, call)) (other : key ≠ lastCallIdKey) :
    next.get? key = state.get? key := by
  obtain ⟨params, _, rfl, _⟩ := issue_eq_ok issued
  rw [State.get?_insert, if_neg other]

end Dialogue

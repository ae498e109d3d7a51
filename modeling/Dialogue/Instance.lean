import Dialogue.Script.Steps
/-!
# Instances

An instance is a script compiled for one run: the steps that apply under the options, and the
initial state, which is the options with the default policies where they name none.
-/

namespace Dialogue

/-- A script made ready for one run. -/
structure Instance where
  script : Script
  steps : List Step
  state : State

/-- The options as a state, with default policies. -/
def initialState (options : Options) : State :=
  ⟨(options.insertIfAbsent Policy.exceptionKey (.str Policy.exceptionDefault.name)).insertIfAbsent
    Policy.consoleKey (.str Policy.consoleDefault.name)⟩

/-- Every key but those of the policies is what the options say. -/
theorem get?_initialState (options : Options) {key : String} (exceptions : key ≠ Policy.exceptionKey)
    (console : key ≠ Policy.consoleKey) : (initialState options).get? key = options.get? key := by
  simp only [State.get?, initialState, Table.get?_insertIfAbsent, if_neg console, if_neg exceptions]

namespace Instance

/-- An instance for these options. -/
def new (script : Script) (options : Options) : Instance :=
  ⟨script, script.steps options, initialState options⟩

/-- An instance that is scoped to a session, whatever session the options name. -/
def forSession (script : Script) (session : String) (options : Options) : Instance :=
  new script (options.insert sessionIdKey (.str session))

/-- An instance that is scoped to a session if one is given. -/
def forOptionalSession (script : Script) (session : Option String) (options : Options) : Instance :=
  match session with
  | some session => forSession script session options
  | none => new script options

end Instance

/-- An instance that is scoped to a session is one for other options, which differ in nothing but
the session. -/
theorem exists_options_of_session (script : Script) (session : Option String) (options : Options) :
    ∃ effective : Options,
      Instance.forOptionalSession script session options = .new script effective ∧
      ∀ key, key ≠ sessionIdKey → effective.get? key = options.get? key := by
  cases session with
  | none => exact ⟨options, rfl, fun key _ => rfl⟩
  | some session =>
      exact ⟨_, rfl, fun key other => Table.get?_insert_of_ne options other (.str session)⟩

end Dialogue

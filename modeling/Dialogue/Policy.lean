import Dialogue.State
/-!
# Policies

A policy says what is done with a runtime event that arrives while a step is pending: nothing, a
warning, or the end of the run.  The two policies of a run are values of its state; a value that
names no policy counts as absent.
-/

namespace Dialogue

/-- What to do with a runtime event. -/
inductive Policy where
  | ignore
  | log
  | raise
deriving DecidableEq, Repr

namespace Policy

def name : Policy → String
  | .ignore => "ignore"
  | .log => "log"
  | .raise => "raise"

/-- All policy names, in the order in which messages list them. -/
def names : List String :=
  ["ignore", "log", "raise"]

def ofName? : String → Option Policy
  | "ignore" => some .ignore
  | "log" => some .log
  | "raise" => some .raise
  | _ => none

@[simp] theorem ofName?_name (policy : Policy) : ofName? policy.name = some policy := by
  cases policy <;> rfl

/-- A policy is named by its text, or by an object whose only key is that text and holds null. -/
def ofJson? : Json → Option Policy
  | .str name => ofName? name
  | .obj ⟨[(name, .null)]⟩ => ofName? name
  | _ => none

/-- The state key of the policy for unhandled exceptions. -/
def exceptionKey : String := "unhandled_runtime_exceptions"

/-- The state key of the policy for console calls. -/
def consoleKey : String := "console_api_calls"

/-- Exceptions are reported unless a policy says otherwise. -/
def exceptionDefault : Policy := .log

/-- Console calls are ignored unless a policy says otherwise. -/
def consoleDefault : Policy := .ignore

/-- The policy that a state names at a key, or the default. -/
def ofState (state : State) (key : String) (default : Policy) : Policy :=
  ((state.get? key).bind ofJson?).getD default

end Policy

end Dialogue

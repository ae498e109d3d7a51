import Dialogue.State
/-!
# Key specifiers

A specifier pairs a flat key with a path.  It moves values in three directions: a path of the state
gives the parameter `key` of a call; a path of a payload gives the state key `key`; and the value at
a path of a notification is compared with the state's value at `key`.  A bare key is the specifier
whose path is that key alone.
-/

namespace Dialogue

/-- A flat key and the path it is paired with. -/
inductive KeySpec where
  | bare (key : String)
  | mapped (key : String) (path : List String)
deriving DecidableEq, Repr

namespace KeySpec

/-- The flat side. -/
def key : KeySpec → String
  | .bare key => key
  | .mapped key _ => key

/-- The nested side. -/
def path : KeySpec → List String
  | .bare key => [key]
  | .mapped _ path => path

end KeySpec

/-- Where the parameters of a call come from: paths of the state, or a rule of their own. -/
inductive ParamSource where
  | keys (specs : List KeySpec)
  | computed (rule : State → Except ScriptError (Table Json))

/-- The values at the state paths of some specifiers, by flat key; the first missing path is an
error. -/
def collectParams (state : State) (found : Table Json) :
    List KeySpec → Except ScriptError (Table Json)
  | [] => .ok found
  | spec :: rest => do
      let value ← state.fetchAt spec.path
      collectParams state (found.insert spec.key value) rest

/-- The parameters that a source yields in a state. -/
def ParamSource.resolve (source : ParamSource) (state : State) : Except ScriptError (Table Json) :=
  match source with
  | .keys specs => collectParams state .empty specs
  | .computed rule => rule state

/-- The parameters of a call: what the source yields, over the defaults. -/
def resolveParams (state : State) (source : ParamSource) (defaults : Table Json) :
    Except ScriptError (Table Json) := do
  let resolved ← source.resolve state
  return defaults.overlay resolved

/-- Copy the values at payload paths into the state under their flat keys.  The first missing path
is an error that names it and where it was looked for. -/
def extractFields (state : State) (payload : Json) (context : String) :
    List KeySpec → Except ScriptError State
  | [] => .ok state
  | spec :: rest =>
      match payload.at? spec.path with
      | none => .error (.missingPath spec.path context)
      | some value => extractFields (state.insert spec.key value) payload context rest

/-- Whether the value at every path equals the state's value at its key.  Specifiers are compared in
order up to the first difference; a key that the state lacks is an error when it is reached. -/
def fieldsMatch (state : State) (params : Json) : List KeySpec → Except ScriptError Bool
  | [] => .ok true
  | spec :: rest => do
      let expected ← state.fetch spec.key
      match params.at? spec.path with
      | some actual => if actual == expected then fieldsMatch state params rest else return false
      | none => return false

end Dialogue

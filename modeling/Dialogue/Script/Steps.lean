import Dialogue.Script.Basic
/-!
# The steps of a script

Compiling a script against options leaves the steps that apply, in order.  The elements are scanned
once with a flag: a block whose guard fails sets it, the next end of a block clears it, and while it
is set nothing is emitted.  A spliced script is compiled against the same options, with a scan of
its own.
-/

namespace Dialogue

/-- Whether a block applies: its option is present and, if values are given, equals one of them. -/
def guardHolds (options : Options) (key : String) (allowed : Option (List Json)) : Bool :=
  match options.get? key, allowed with
  | none, _ => false
  | some _, none => true
  | some value, some allowed => allowed.any (· == value)

mutual

/-- The steps that an element emits where it applies. -/
def Element.steps (options : Options) : Element → List Step
  | .call name spec => [⟨name, .call spec⟩]
  | .await name handler => [⟨name, .await handler⟩]
  | .output name spec => [⟨name, .output spec⟩]
  | .ifOption _ _ => []
  | .endIf => []
  | .splice _ body => scanElements options false body

/-- The steps of a sequence of elements.  `skipping` says that the sequence begins inside a block
whose guard failed. -/
def scanElements (options : Options) (skipping : Bool) : List Element → List Step
  | [] => []
  | .endIf :: rest => scanElements options false rest
  | .ifOption key allowed :: rest =>
      scanElements options (skipping || !guardHolds options key allowed) rest
  | element :: rest =>
      if skipping then scanElements options true rest
      else element.steps options ++ scanElements options false rest

end

/-- The steps of a script under some options. -/
def Script.steps (script : Script) (options : Options) : List Step :=
  scanElements options false script.elements

end Dialogue

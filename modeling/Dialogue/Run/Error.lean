import Dialogue.Error
import Dialogue.Failure
/-!
# Ends without a result

The ways in which a run, or the pool of sessions that runs are given, ends without a result.
-/

namespace Dialogue

/-- A span of time in words: milliseconds below a second, else seconds with up to three decimals. -/
def durationText (milliseconds : Nat) : String :=
  if milliseconds = 0 then "0ns"
  else if milliseconds < 1000 then s!"{milliseconds}ms"
  else
    let decimals := (decimalDigits (1000 + milliseconds % 1000)).drop 1
    let kept := (decimals.reverse.dropWhile (· == '0')).reverse
    let fraction := if kept.isEmpty then "" else "." ++ String.ofList kept
    s!"{milliseconds / 1000}{fraction}s"

/-- Why there is no result. -/
inductive RunError where
  | fatal (cause : ScriptError)
  | failed (step : String) (failure : Failure)
  | timeout (step : String) (milliseconds : Nat)
  | closed (step : String)
  | poolExhausted (capacity : Nat)
  /-- The other side no longer takes frames. -/
  | peerGone

def RunError.message : RunError → String
  | .fatal cause => cause.message
  | .failed step failure => s!"Protocol failed in step '{step}': {failure.text}"
  | .timeout step milliseconds =>
      s!"Timed out after {durationText milliseconds} in step '{step}'"
  | .closed step => s!"Connection closed while waiting in step '{step}'"
  | .poolExhausted capacity => s!"Maximum concurrent sessions ({capacity}) reached"
  | .peerGone => "Transport error: Outgoing channel closed"

end Dialogue

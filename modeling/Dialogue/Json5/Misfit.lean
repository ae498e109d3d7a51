import Dialogue.Number.Decimal
import Dialogue.Text.Quoted
/-!
# Misfits of a configuration text

A configuration text whose syntax is right may still not have the content that is asked for.  These
are the causes, in terms of what was found and what was expected.
-/

namespace Dialogue.Json5

/-- A number that is not an integer. -/
inductive Floating where
  | finite (value : Double)
  | infinite (negative : Bool)
  | nan
deriving DecidableEq

/-- Finite numbers are named without an exponent and always with a point. -/
def Floating.text : Floating → String
  | .finite value => value.plain
  | .infinite true => "-inf"
  | .infinite false => "inf"
  | .nan => "NaN"

/-- What a value turned out to be. -/
inductive Found where
  | null
  | boolean (value : Bool)
  | integer (value : Int)
  | floating (value : Floating)
  | text (value : String)
  | sequence
  | map
deriving DecidableEq

def Found.describe : Found → String
  | .null => "unit value"
  | .boolean value => s!"boolean `{value}`"
  | .integer value => s!"integer `{value}`"
  | .floating value => s!"floating point `{value.text}`"
  | .text value => "string " ++ Text.cited value
  | .sequence => "sequence"
  | .map => "map"

/-- Why a content does not fit. -/
inductive Misfit where
  | invalidType (found : Found) (expected : String)
  /-- A sequence that is too short for the record it stands for. -/
  | invalidLength (length : Nat) (record : String) (fields : Nat)
  | duplicateField (name : String)
  | unknownVariant (name : String) (variants : List String)
  | notStringOrObject
  | emptyObject
  | notANumber
  | numberTooLarge
  | notAnInteger
  | hexTooLarge
  | notHex
  | unexpectedTrailSurrogate
  | missingTrailSurrogate
  | expectedTrailSurrogate
deriving DecidableEq

def Misfit.message : Misfit → String
  | .invalidType found expected => s!"invalid type: {found.describe}, expected {expected}"
  | .invalidLength length record fields =>
      s!"invalid length {length}, expected struct {record} with {fields} elements"
  | .duplicateField name => s!"duplicate field `{name}`"
  | .unknownVariant name variants =>
      s!"unknown variant `{name}`, expected one of " ++
        ", ".intercalate (variants.map fun variant => s!"`{variant}`")
  | .notStringOrObject => "expected a string or an object"
  | .emptyObject => "expected a nonempty object"
  | .notANumber => "error parsing number"
  | .numberTooLarge => "error parsing number: too large"
  | .notAnInteger => "error parsing integer"
  | .hexTooLarge => "error parsing hex"
  | .notHex => "error parsing hex"
  | .unexpectedTrailSurrogate => "unexpected unicode trail surrogate"
  | .missingTrailSurrogate => "missing unicode trail surrogate"
  | .expectedTrailSurrogate => "expecting unicode trail surrogate"

end Dialogue.Json5

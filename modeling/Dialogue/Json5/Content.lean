import Dialogue.Json.Parser
import Dialogue.Json5.Misfit
import Dialogue.Json5.Syntax
/-!
# Content of JSON5 text

What the spellings of a tree mean.  A number means one thing where a natural number is asked for,
and another where any value is taken: in the first place every number will do and is cut to a
64-bit word; in the second an integer has to fit 64 bits with its sign.  Hexadecimal digits are
read in 32 bits, and only without a sign.
-/

namespace Dialogue.Json5

open Dialogue.Json (hexValue? isHighSurrogate isLowSurrogate surrogatePair)

/-- The character that a letter behind a backslash stands for; most stand for themselves. -/
def escaped (letter : Char) : Char :=
  if letter = 'b' then '\x08'
  else if letter = 'f' then '\x0c'
  else if letter = 'n' then '\n'
  else if letter = 'r' then '\r'
  else if letter = 't' then '\t'
  else if letter = 'v' then '\x0b'
  else if letter = '0' then '\x00'
  else letter

/-- The number that the spelling of a piece is in hexadecimal digits.  A character, or the letter of
an escape, may happen to be such a digit. -/
def hexSpelling? : Piece → Option Nat
  | .char value => hexValue? value
  | .escape letter => hexValue? letter
  | .byte value => some value
  | .unit value => some value

/-- The characters that pieces stand for.  Code units beyond the basic plane come in pairs; what
follows the first half of a pair is read as the number of the second, whatever it is. -/
def textChars : List Piece → Except Misfit (List Char)
  | [] => .ok []
  | .char value :: rest => (textChars rest).map (value :: ·)
  | .escape letter :: rest => (textChars rest).map (escaped letter :: ·)
  | .byte value :: rest => (textChars rest).map (Char.ofNat value :: ·)
  | .unit unit :: rest =>
      if isLowSurrogate unit then .error .unexpectedTrailSurrogate
      else if isHighSurrogate unit then
        match rest with
        | [] => .error .missingTrailSurrogate
        | piece :: rest =>
            match hexSpelling? piece with
            | none => .error .notHex
            | some trail =>
                if isLowSurrogate trail then (textChars rest).map (surrogatePair unit trail :: ·)
                else .error .expectedTrailSurrogate
      else (textChars rest).map (Char.ofNat unit :: ·)

/-- The text that pieces stand for. -/
def text (pieces : List Piece) : Except Misfit String :=
  (textChars pieces).map String.ofList

/-- The value of hexadecimal digits, which has to fit 32 bits. -/
def hexNumber (digits : List Char) : Except Misfit Nat :=
  let value := digits.foldl (fun n c => 16 * n + (hexValue? c).getD 0) 0
  if value < UInt32.size then .ok value else .error .hexTooLarge

/-- The double nearest to a decimal spelling. -/
def decimalDouble (negative : Bool) (whole fraction : List Char) (exponent : Option ExponentPart) :
    Except Misfit Double :=
  let power : Int :=
    match exponent with
    | none => 0
    | some part =>
        if part.negative then -(digitsValue 0 part.digits : Int) else digitsValue 0 part.digits
  let decimal : Decimal := ⟨digitsValue (digitsValue 0 whole) fraction, power - fraction.length⟩
  match decimal.toDouble? negative with
  | some value => .ok value
  | none => .error .numberTooLarge

namespace Spelling

/-- The number as a double.  Infinity and NaN are taken with a minus sign or none. -/
def floating (spelling : Spelling) : Except Misfit Floating :=
  match spelling.magnitude, spelling.sign with
  | .infinity, .plus => .error .numberTooLarge
  | .infinity, sign => .ok (.infinite (sign == .minus))
  | .nan, .plus => .error .numberTooLarge
  | .nan, _ => .ok .nan
  | .hex digits, .none => do
      let value ← hexNumber digits
      match Double.ofRatio? false value 1 with
      | some value => return .finite value
      | none => .error .numberTooLarge
  | .hex _, _ => .error .notANumber
  | .decimal whole fraction exponent, sign =>
      (decimalDouble (sign == .minus) whole (fraction.getD []) exponent).map .finite

/-- The number cut to a 64-bit word: fractions are cut off, negative numbers and NaN become zero,
and what is too large becomes the greatest word. -/
def word (spelling : Spelling) : Except Misfit UInt64 := do
  match ← spelling.floating with
  | .finite value => return value.toWord
  | .infinite true => return 0
  | .infinite false => return UInt64.ofNat (UInt64.size - 1)
  | .nan => return 0

/-- Whether a spelling is an integer's: it has neither point nor exponent.  After a sign the digit
`e` of a hexadecimal number counts as the mark of an exponent; infinity and NaN are integers only
with a plus sign, and then they are bad ones. -/
def isInteger (spelling : Spelling) : Bool :=
  match spelling.magnitude, spelling.sign with
  | .infinity, sign => sign == .plus
  | .nan, sign => sign == .plus
  | .hex _, .none => true
  | .hex digits, _ => !digits.any fun c => c = 'e' || c = 'E'
  | .decimal _ fraction exponent, _ => fraction.isNone && exponent.isNone

/-- The integer of an integer's spelling, which has to fit 64 bits with its sign. -/
def integer (spelling : Spelling) : Except Misfit Int :=
  match spelling.magnitude, spelling.sign with
  | .hex digits, .none => (hexNumber digits).map Int.ofNat
  | .decimal whole _ _, sign =>
      let size := digitsValue 0 whole
      if sign == .minus then
        if size ≤ UInt64.size / 2 then .ok (-Int.ofNat size) else .error .notAnInteger
      else
        if size < UInt64.size / 2 then .ok (Int.ofNat size) else .error .notAnInteger
  | _, _ => .error .notAnInteger

/-- What the number turns out to be where any value is taken. -/
def found (spelling : Spelling) : Except Misfit Found :=
  if spelling.isInteger then spelling.integer.map .integer else spelling.floating.map .floating

end Spelling

namespace Tree

/-- What a value turns out to be.  Only its own spelling is read, not that of its members. -/
def found : Tree → Except Misfit Found
  | .null => .ok .null
  | .bool value => .ok (.boolean value)
  | .num spelling => spelling.found
  | .str pieces => (Json5.text pieces).map .text
  | .arr _ => .ok .sequence
  | .obj _ => .ok .map

/-- The error for a value of another type than the expected one; a value that cannot be read at all
has an error of its own. -/
def mismatch (tree : Tree) (expected : String) : Except Misfit α := do
  let found ← tree.found
  .error (.invalidType found expected)

mutual

/-- Read a value that nobody asked for.  Its spellings still have to mean something. -/
def ignore : Tree → Except Misfit Unit
  | .arr items => ignoreItems items
  | .obj members => ignoreMembers members
  | .null => .ok ()
  | .bool _ => .ok ()
  | .num spelling => spelling.found.map fun _ => ()
  | .str pieces => (Json5.text pieces).map fun _ => ()

def ignoreItems : List Tree → Except Misfit Unit
  | [] => .ok ()
  | tree :: rest =>
      match ignore tree with
      | .ok () => ignoreItems rest
      | .error misfit => .error misfit

def ignoreMembers : List (List Piece × Tree) → Except Misfit Unit
  | [] => .ok ()
  | (key, tree) :: rest =>
      match Json5.text key with
      | .error misfit => .error misfit
      | .ok _ =>
          match ignore tree with
          | .ok () => ignoreMembers rest
          | .error misfit => .error misfit

end

/-- A text. -/
def readText : Tree → Except Misfit String
  | .str pieces => Json5.text pieces
  | tree => tree.mismatch "a string"

/-- A natural number of 64 bits. -/
def readWord : Tree → Except Misfit UInt64
  | .num spelling => spelling.word
  | _ => .error .notANumber

/-- A list of values. -/
def readList (item : Tree → Except Misfit α) : Tree → Except Misfit (List α)
  | .arr items => items.mapM item
  | tree => tree.mismatch "a sequence"

/-- A value or null. -/
def readOptional (value : Tree → Except Misfit α) : Tree → Except Misfit (Option α)
  | .null => .ok none
  | tree => (value tree).map some

/-- One of a few names: a text, or the key of the first member of an object.  What the member holds,
and what follows it, is not looked at. -/
def readVariant (variants : List String) (ofName? : String → Option α) : Tree → Except Misfit α
  | .str pieces => do
      let name ← Json5.text pieces
      match ofName? name with
      | some value => return value
      | none => .error (.unknownVariant name variants)
  | .obj ((key, _) :: _) => do
      let name ← Json5.text key
      match ofName? name with
      | some value => return value
      | none => .error (.unknownVariant name variants)
  | .obj [] => .error .emptyObject
  | _ => .error .notStringOrObject

end Tree

/-- A field of a record: its name, how it is read into a record of which the other fields may not be
read yet, and whether it may be missing at the end of a sequence. -/
structure Field (ρ : Type) where
  name : String
  read : Tree → ρ → Except Misfit ρ
  mayLack : Bool

/-- A record that is read from an object or from the sequence of its fields. -/
structure Record (ρ : Type) where
  name : String
  fields : List (Field ρ)
  /-- The record that has the default of every field. -/
  start : ρ

namespace Record

variable {ρ : Type}

/-- Read members in the order of the text; `seen` holds the names of the fields that are read.
Unknown members are ignored, known ones may come only once. -/
def readMembers (record : Record ρ) (seen : List String) (value : ρ) :
    List (List Piece × Tree) → Except Misfit ρ
  | [] => .ok value
  | (key, tree) :: rest => do
      let name ← Json5.text key
      match record.fields.find? (·.name == name) with
      | none => do
          tree.ignore
          readMembers record seen value rest
      | some field =>
          if seen.contains name then .error (.duplicateField name)
          else do
            let value ← field.read tree value
            readMembers record (name :: seen) value rest

/-- Read fields from items in turn.  Surplus items are not looked at. -/
def readItems (record : Record ρ) (index : Nat) (value : ρ) :
    List (Field ρ) → List Tree → Except Misfit ρ
  | [], _ => .ok value
  | field :: fields, tree :: rest => do
      let value ← field.read tree value
      readItems record (index + 1) value fields rest
  | field :: fields, [] =>
      if field.mayLack then readItems record (index + 1) value fields []
      else .error (.invalidLength index record.name record.fields.length)

def read (record : Record ρ) : Tree → Except Misfit ρ
  | .obj members => record.readMembers [] record.start members
  | .arr items => record.readItems 0 record.start record.fields items
  | tree => tree.mismatch ("struct " ++ record.name)

end Record

end Dialogue.Json5

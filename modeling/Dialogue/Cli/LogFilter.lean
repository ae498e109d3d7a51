import Dialogue.Cli.Pattern
import Dialogue.Text.Split
import Dialogue.Text.Utf8
/-!
# Log filters

A directive sets a level for a target, for a span in square brackets with fields in braces, or for
both: `target[span{field=value}]=level`.  All but one of its parts may be left out.  A
directive is read character by character without the blanks around it, but its parts are cut out of
the text as it was given, at the same offsets in bytes: blanks in front shift every part.
-/

namespace Dialogue.Cli

/-- Why a text is not a directive: it has another form, or a part would begin or end inside a
character. -/
inductive DirectiveDefect where
  | malformed
  | splitCharacter
deriving DecidableEq, Repr

/-- Where reading a directive stands, with the offset at which an open part begins. -/
inductive DirectiveStage where
  | start
  /-- In a target, or in a level that stands alone. -/
  | target
  | span (first : Nat)
  | field (first : Nat)
  /-- After the fields of a span. -/
  | fields
  /-- After a span. -/
  | closed
  | level (first : Nat)
  | complete
deriving DecidableEq, Repr

/-- Whether a directive that has no span in front may begin with this character. -/
def beginsTarget (c : Char) : Bool :=
  c = '-' || c = ':' || c = '_' || Text.isAlphanumeric c

/-- Whether a text names a level, by its name in any case or by its number. -/
def isLevel (text : List Char) : Bool :=
  let digits := if text.head? = some '+' then text.drop 1 else text
  let numbered := !digits.isEmpty && digits.all Char.isDigit &&
    match digits.dropWhile (· = '0') with
    | [] => true
    | [digit] => digit ≤ '5'
    | _ => false
  numbered || ["trace", "debug", "info", "warn", "error", "off"].contains
    (String.ofList (text.map Char.toLower))

/-- Whether an exponent or nothing follows the digits of a number. -/
def isExponent : List Char → Bool
  | [] => true
  | mark :: rest =>
      let digits := match rest with
        | '+' :: digits => digits
        | '-' :: digits => digits
        | digits => digits
      (mark = 'e' || mark = 'E') && !digits.isEmpty && digits.all Char.isDigit

/-- Whether a text is a number without a sign: infinity, the mark of an undefined number, or digits
with a point before, among or after them and perhaps an exponent. -/
def isUnsignedNumber (text : List Char) : Bool :=
  let after := text.dropWhile Char.isDigit
  let whole := after.length < text.length
  ["inf", "infinity", "nan"].contains (String.ofList (text.map Char.toLower)) ||
    match after with
    | '.' :: rest =>
        (whole || (rest.head?.map Char.isDigit).getD false) &&
          isExponent (rest.dropWhile Char.isDigit)
    | rest => whole && isExponent rest

/-- Whether a text is the value that a field is compared with: a number or a pattern.  Numbers
without a plus sign in front are patterns too. -/
def isFieldValue (text : List Char) : Bool :=
  isPattern text ||
    match text with
    | '+' :: number => isUnsignedNumber number
    | _ => false

/-- Whether a text is a field, which is a name and perhaps a value after an equals sign.  What comes
after a second equals sign is not looked at. -/
def isField (text : List Char) : Bool :=
  !text.isEmpty &&
    match Text.split '=' text with
    | _ :: value :: _ => isFieldValue value
    | _ => true

/-- The part of a text between two offsets in bytes. -/
def cutPart (text : List Char) (first last : Nat) : Except DirectiveDefect (List Char) :=
  match Text.splitBytes? first text with
  | none => .error .splitCharacter
  | some (_, rest) =>
      match Text.splitBytes? (last - first) rest with
      | none => .error .splitCharacter
      | some (part, _) => .ok part

/-- Go on if a part has the form that it should have. -/
def passPart (part : Except DirectiveDefect (List Char)) (good : List Char → Bool)
    (next : DirectiveStage) : Except DirectiveDefect DirectiveStage := do
  if good (← part) then return next else .error .malformed

namespace DirectiveStage

/-- Read one character at an offset of a text. -/
def step (text : List Char) (stage : DirectiveStage) (offset : Nat) (c : Char) :
    Except DirectiveDefect DirectiveStage :=
  match stage with
  | start =>
      if c = '[' then .ok (span (offset + 1))
      else if beginsTarget c then .ok target
      else .error .malformed
  | target =>
      if c = '=' then passPart (cutPart text 0 offset) (fun _ => true) (level (offset + 1))
      else if c = '[' then passPart (cutPart text 0 offset) (fun _ => true) (span (offset + 1))
      else if c = ',' then .ok complete
      else .ok target
  | span first =>
      if c = ']' then passPart (cutPart text first offset) (fun _ => true) closed
      else if c = '{' then passPart (cutPart text first offset) (fun _ => true) (field (offset + 1))
      else .ok (span first)
  | field first =>
      if c = '}' then passPart (cutPart text first offset) isField fields
      else if c = ',' then passPart (cutPart text first offset) isField (field (offset + 1))
      else .ok (field first)
  | fields => if c = ']' then .ok closed else .error .malformed
  | closed => if c = '=' then .ok (level (offset + 1)) else .error .malformed
  | level first =>
      if c = ',' then
        passPart (cutPart text first offset) (fun part => part.isEmpty || isLevel part) complete
      else .ok (level first)
  | complete => .error .malformed

/-- Check that a text may end here.  A level may be left out after its sign. -/
def finish (text : List Char) : DirectiveStage → Except DirectiveDefect Unit
  | target | closed | complete => .ok ()
  | level first =>
      match Text.splitBytes? first text with
      | none => .error .splitCharacter
      | some (_, part) => if part.isEmpty || isLevel part then .ok () else .error .malformed
  | start | span _ | field _ | fields => .error .malformed

/-- Read the characters that are left from an offset on. -/
def run (text : List Char) (stage : DirectiveStage) (offset : Nat) :
    List Char → Except DirectiveDefect Unit
  | [] => stage.finish text
  | c :: rest => do run text (← stage.step text offset c) (offset + c.utf8Size) rest

end DirectiveStage

/-- Check that a text is a directive. -/
def checkDirective (text : String) : Except DirectiveDefect Unit :=
  DirectiveStage.start.run text.toList 0 (Text.trim text.toList)

end Dialogue.Cli

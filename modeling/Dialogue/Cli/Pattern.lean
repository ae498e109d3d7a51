import Dialogue.Json.Parser
import Dialogue.Text.Alphanumeric
import Dialogue.Text.Blank
/-!
# Search patterns

Which texts are search patterns.  A pattern is a sequence of items with bars between alternatives:
characters, escapes, sets in square brackets and groups in parentheses, each perhaps repeated.
Counted repetitions are left out, for a pattern here never holds a closing brace.  A pattern must
be one that a finite automaton can search for in well formed text, so that it has no references
back, no looking around, no borders of words in the sense of all scripts, and nothing that matches
single bytes of longer characters.
-/

namespace Dialogue.Cli.Pattern

open Dialogue.Json (hexValue?)

/-- What the flags say about the text after them: whether sets and escapes are about characters, or
about bytes, and whether blanks and comments are skipped. -/
structure Mode where
  unicode : Bool := true
  spaced : Bool := false

/-- What a character or an escape stands for. -/
inductive Item where
  | char (value : Char)
  /-- Any character of some set. -/
  | set
  /-- A place between characters. -/
  | place

/-- Skip blanks, and comments up to the end of their lines. -/
def skipFrom : (inComment : Bool) → List Char → List Char
  | _, [] => []
  | true, c :: rest => skipFrom (c != '\n') rest
  | false, c :: rest =>
      if Text.isBlank c then skipFrom false rest
      else if c = '#' then skipFrom true rest
      else c :: rest

def Mode.skip (mode : Mode) (text : List Char) : List Char :=
  if mode.spaced then skipFrom false text else text

/-! ### Escapes -/

/-- A number of hexadecimal digits, and their value. -/
def readHex (mode : Mode) : (count value : Nat) → List Char → Option (Nat × List Char)
  | 0, value, text => some (value, text)
  | count + 1, value, text =>
      match mode.skip text with
      | [] => none
      | c :: rest =>
          match hexValue? c with
          | some digit => readHex mode count (16 * value + digit) rest
          | none => none

/-- A character by its number. -/
def readCode (mode : Mode) (count : Nat) (text : List Char) : Option (Item × List Char) :=
  match readHex mode count 0 text with
  | none => none
  | some (value, rest) => if value.isValidChar then some (.char (Char.ofNat value), rest) else none

/-- Whether a character is beyond the first 128, and so more than one byte. -/
def isWide (c : Char) : Bool :=
  128 ≤ c.toNat

/-- The letters of the general categories. -/
def isCategory (c : Char) : Bool :=
  "clmnpsz".toList.contains c.toLower

/-- The control character that a letter names. -/
def control? (c : Char) : Option Char :=
  if c = 'a' then some '\x07'
  else if c = 'f' then some '\x0c'
  else if c = 'n' then some '\n'
  else if c = 'r' then some '\r'
  else if c = 't' then some '\t'
  else if c = 'v' then some '\x0b'
  else none

/-- Read an escape after its backslash.  Sets that hold wide characters, and wide characters by the
number of a byte, are for the Unicode mode; borders of words are for the other one. -/
def readEscape (mode : Mode) : List Char → Option (Item × List Char)
  | [] => none
  | 'x' :: rest =>
      match readCode mode 2 rest with
      | some (.char value, rest) =>
          if mode.unicode || !isWide value then some (.char value, rest) else none
      | _ => none
  | 'u' :: rest => readCode mode 4 rest
  | 'U' :: rest => readCode mode 8 rest
  | c :: rest =>
      if c = 'p' || c = 'P' then
        match mode.skip rest with
        | name :: rest => if mode.unicode && isCategory name then some (.set, rest) else none
        | [] => none
      else if c = 'd' || c = 's' || c = 'w' then some (.set, rest)
      else if c = 'D' || c = 'S' || c = 'W' then
        if mode.unicode then some (.set, rest) else none
      else if c = 'b' || c = 'B' || c = '<' || c = '>' then
        if mode.unicode then none else some (.place, rest)
      else if c = 'A' || c = 'z' then some (.place, rest)
      else
        match control? c with
        | some value => some (.char value, rest)
        | none => if isWide c || c.isAlphanum then none else some (.char c, rest)

/-! ### Sets -/

/-- One member of a set, or one end of a range. -/
def readMember (mode : Mode) : List Char → Option (Item × List Char)
  | [] => none
  | '\\' :: rest =>
      match readEscape mode rest with
      | some (.char value, rest) =>
          if mode.unicode || !isWide value then some (.char value, rest) else none
      | other => other
  | c :: rest => if mode.unicode || !isWide c then some (.char c, rest) else none

/-- A member or a range.  A hyphen makes a range unless a closing bracket or another hyphen follows
it; a range goes up from one character to another. -/
def readRange (mode : Mode) (text : List Char) : Option (List Char) :=
  match readMember mode text with
  | none => none
  | some (first, rest) =>
      let single (rest : List Char) := match first with
        | .place => none
        | _ => some rest
      match mode.skip rest with
      | '-' :: after =>
          match mode.skip after with
          | ']' :: _ => single ('-' :: after)
          | '-' :: _ => single ('-' :: after)
          | after =>
              match first, readMember mode after with
              | .char first, some (.char last, rest) => if first ≤ last then some rest else none
              | _, _ => none
      | rest => single rest

/-- Drop the hyphens at the start of a set. -/
def dropHyphens (mode : Mode) : List Char → List Char
  | [] => []
  | c :: rest => if c = '-' then dropHyphens mode rest else mode.skip (c :: rest)

/-- Enter a set after its bracket: a circumflex for the complement, which holds wide characters, and
hyphens, or else a closing bracket, that stand for themselves. -/
def openSet (mode : Mode) (text : List Char) : Option (List Char) :=
  let members (text : List Char) := match text with
    | '-' :: rest => dropHyphens mode rest
    | ']' :: rest => rest
    | text => text
  match mode.skip text with
  | '^' :: rest => if mode.unicode then some (members (mode.skip rest)) else none
  | text => some (members text)

/-- Read to the end of a set inside `depth` others.  Between its members may stand the operators for
intersection, difference and symmetric difference. -/
def readSet (mode : Mode) : (bound depth : Nat) → List Char → Option (List Char)
  | 0, _, _ => none
  | bound + 1, depth, text =>
      match mode.skip text with
      | [] => none
      | '[' :: rest => (openSet mode rest).bind (readSet mode bound (depth + 1))
      | ']' :: rest =>
          match depth with
          | 0 => some rest
          | depth + 1 => readSet mode bound depth rest
      | '&' :: '&' :: rest => readSet mode bound depth rest
      | '-' :: '-' :: rest => readSet mode bound depth rest
      | '~' :: '~' :: rest => readSet mode bound depth rest
      | text => (readRange mode text).bind (readSet mode bound depth)

/-! ### Groups -/

/-- The name of a group, up to the closing angle bracket. -/
def readName (text : List Char) : Option (List Char × List Char) :=
  match text.takeWhile (· != '>'), text.dropWhile (· != '>') with
  | first :: others, _ :: rest =>
      let continues (c : Char) :=
        c = '_' || c = '.' || c = '[' || c = ']' || Text.isAlphanumeric c
      if (first = '_' || Text.isAlphabetic first) && others.all continues then
        some (first :: others, rest)
      else none
  | _, _ => none

/-- Flags, each at most once, and a hyphen before those that are taken back; `seen` holds what was
read, the last first.  The closing character is returned too. -/
def readFlags (mode : Mode) (seen : List Char) : List Char → Option (Mode × Char × List Char)
  | [] => none
  | c :: rest =>
      if c = ':' || c = ')' then
        if seen.head? = some '-' || (c = ')' && seen.isEmpty) then none else some (mode, c, rest)
      else if "imsUuRx-".toList.contains c && !seen.contains c then
        let given := !seen.contains '-'
        let mode :=
          if c = 'u' then { mode with unicode := given }
          else if c = 'x' then { mode with spaced := given }
          else mode
        readFlags mode (c :: seen) rest
      else none

/-- What was read of a pattern: the mode, the modes that the open groups return to, the names of
groups, and whether the last item can be repeated. -/
structure Progress where
  mode : Mode := {}
  outer : List Mode := []
  names : List (List Char) := []
  repeatable : Bool := false

/-- Enter a group whose items are read in some mode. -/
def Progress.enter (progress : Progress) (mode : Mode) : Progress :=
  { progress with mode, outer := progress.mode :: progress.outer, repeatable := false }

/-- Read what stands after an opening parenthesis: a name, flags for the group, flags for what
follows, or nothing of the kind. -/
def openGroup (progress : Progress) (text : List Char) : Option (Progress × List Char) :=
  let named (rest : List Char) := match readName rest with
    | none => none
    | some (name, rest) =>
        if progress.names.contains name then none
        else some ({ progress.enter progress.mode with names := name :: progress.names }, rest)
  match progress.mode.skip text with
  | '?' :: 'P' :: '<' :: rest => named rest
  | '?' :: '<' :: rest => named rest
  | '?' :: rest =>
      match readFlags progress.mode [] rest with
      | none => none
      | some (mode, ':', rest) => some (progress.enter mode, rest)
      | some (mode, _, rest) => some ({ progress with mode, repeatable := false }, rest)
  | text => some (progress.enter progress.mode, text)

/-! ### Patterns -/

/-- Read a pattern to its end, where no group may be open. -/
def accepts : (bound : Nat) → Progress → List Char → Bool
  | 0, _, _ => false
  | bound + 1, progress, text =>
      let goOn (rest : Option (List Char)) := match rest with
        | some rest => accepts bound { progress with repeatable := true } rest
        | none => false
      match progress.mode.skip text with
      | [] => progress.outer.isEmpty
      | '(' :: rest =>
          match openGroup progress rest with
          | some (progress, rest) => accepts bound progress rest
          | none => false
      | ')' :: rest =>
          match progress.outer with
          | mode :: outer => accepts bound { progress with mode, outer, repeatable := true } rest
          | [] => false
      | '|' :: rest => accepts bound { progress with repeatable := false } rest
      | '[' :: rest => goOn ((openSet progress.mode rest).bind (readSet progress.mode bound 0))
      | '\\' :: rest => goOn ((readEscape progress.mode rest).map Prod.snd)
      | '.' :: rest => progress.mode.unicode && goOn (some rest)
      | '{' :: _ => false
      | c :: rest =>
          if c = '*' || c = '+' || c = '?' then
            progress.repeatable && goOn (some (if rest.head? = some '?' then rest.drop 1 else rest))
          else goOn (some rest)

end Pattern

/-- Whether a text is a pattern. -/
def isPattern (text : List Char) : Bool :=
  Pattern.accepts (text.length + 1) {} text

end Dialogue.Cli

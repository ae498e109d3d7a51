import Dialogue.Json.Parser
/-!
# The grammar of JSON text

Which texts spell which values, said without the order in which reading goes about it.  A numeral
spells a number unless it is too large for a double, and a character between quotes is spelled by
itself, by an escape or by a pair of surrogates.  Blanks may stand around items, members, keys and
the whole value.  Arrays and objects nest up to a given depth.
-/

namespace Dialogue.Json

variable {α : Type}

/-- Which texts have which meaning. -/
abbrev Grammar (α : Type) := List Char → α → Prop

/-! ### Blanks -/

def Blanks (text : List Char) : Prop :=
  ∀ c ∈ text, isBlank c = true

/-- The same with blanks around the text. -/
def Padded (grammar : Grammar α) : Grammar α := fun text meaning =>
  ∃ before inner after, Blanks before ∧ grammar inner meaning ∧ Blanks after ∧
    text = before ++ (inner ++ after)

/-! ### Quoted text -/

/-- The spellings of a character between quotes. -/
inductive SpellsChar : Grammar Char where
  | plain {c : Char} (printable : ¬c.toNat < 0x20) (noQuote : c ≠ '"') (noEscape : c ≠ '\\') :
      SpellsChar [c] c
  | short {letter c : Char} (named : shortEscape? letter = some c) :
      SpellsChar ['\\', letter] c
  | unit {a b c d : Char} {unit : Nat} (digits : hexUnit? a b c d = some unit)
      (notHigh : isHighSurrogate unit = false) (notLow : isLowSurrogate unit = false) :
      SpellsChar ['\\', 'u', a, b, c, d] (Char.ofNat unit)
  | pair {a b c d e f g h : Char} {first second : Nat} (digits : hexUnit? a b c d = some first)
      (high : isHighSurrogate first = true) (others : hexUnit? e f g h = some second)
      (low : isLowSurrogate second = true) :
      SpellsChar ['\\', 'u', a, b, c, d, '\\', 'u', e, f, g, h] (surrogatePair first second)

/-- The spellings of the text between quotes. -/
inductive SpellsText : Grammar (List Char) where
  | nil : SpellsText [] []
  | cons {c : Char} {spelled chars others : List Char} (first : SpellsChar spelled c)
      (later : SpellsText others chars) : SpellsText (spelled ++ others) (c :: chars)

def SpellsQuoted : Grammar (List Char) := fun text chars =>
  ∃ inner, SpellsText inner chars ∧ text = '"' :: (inner ++ ['"'])

/-! ### Numbers -/

/-- At least one digit, and nothing else. -/
def Digits (text : List Char) : Prop :=
  text ≠ [] ∧ ∀ c ∈ text, c.isDigit = true

/-- The digits of a whole number; a zero begins no longer sequence of them. -/
def WholeDigits (text : List Char) : Prop :=
  Digits text ∧ ∀ second later, text ≠ '0' :: second :: later

inductive SpellsSign : Grammar Bool where
  | minus : SpellsSign ['-'] true
  | none : SpellsSign [] false

inductive SpellsFraction : Grammar (Option (List Char)) where
  | absent : SpellsFraction [] none
  | present {digits : List Char} (nonempty : Digits digits) :
      SpellsFraction ('.' :: digits) (some digits)

/-- The sign of an exponent may be a plus. -/
inductive SpellsExponentSign : Grammar Bool where
  | plus : SpellsExponentSign ['+'] false
  | other {text : List Char} {negative : Bool} (sign : SpellsSign text negative) :
      SpellsExponentSign text negative

inductive SpellsExponent : Grammar (Option ExponentPart) where
  | absent : SpellsExponent [] none
  | present {mark : Char} {sign digits : List Char} {negative : Bool}
      (marked : mark = 'e' ∨ mark = 'E') (signed : SpellsExponentSign sign negative)
      (nonempty : Digits digits) :
      SpellsExponent (mark :: (sign ++ digits)) (some ⟨negative, digits⟩)

inductive SpellsNumeral : Grammar Numeral where
  | intro {sign whole fraction exponent : List Char} {negative : Bool}
      {decimals : Option (List Char)} {scale : Option ExponentPart}
      (signed : SpellsSign sign negative) (digits : WholeDigits whole)
      (fractional : SpellsFraction fraction decimals) (scaled : SpellsExponent exponent scale) :
      SpellsNumeral (sign ++ (whole ++ (fraction ++ exponent))) ⟨negative, whole, decimals, scale⟩

/-! ### Values -/

/-- Items, at least one, with commas between them. -/
inductive Listed (grammar : Grammar α) : Grammar (List α) where
  | one {text : List Char} {item : α} (only : Padded grammar text item) :
      Listed grammar text [item]
  | more {text others : List Char} {item : α} {items : List α} (first : Padded grammar text item)
      (later : Listed grammar others items) :
      Listed grammar (text ++ ',' :: others) (item :: items)

/-- Items, or none, between two marks. -/
inductive Enclosed (grammar : Grammar α) (opening closing : Char) : Grammar (List α) where
  | empty {blanks : List Char} (blank : Blanks blanks) :
      Enclosed grammar opening closing (opening :: (blanks ++ [closing])) []
  | items {text : List Char} {items : List α} (listed : Listed grammar text items) :
      Enclosed grammar opening closing (opening :: (text ++ [closing])) items

/-- A key, a colon and a value. -/
inductive SpellsMember (grammar : Grammar Json) : Grammar (String × Json) where
  | intro {key chars before after text : List Char} {value : Json} (quoted : SpellsQuoted key chars)
      (blankBefore : Blanks before) (blankAfter : Blanks after) (spelled : grammar text value) :
      SpellsMember grammar (key ++ (before ++ ':' :: (after ++ text))) (String.ofList chars, value)

/-- Values with no value inside. -/
inductive SpellsScalar : Grammar Json where
  | null : SpellsScalar ['n', 'u', 'l', 'l'] .null
  | true : SpellsScalar ['t', 'r', 'u', 'e'] (.bool true)
  | false : SpellsScalar ['f', 'a', 'l', 's', 'e'] (.bool false)
  | number {text : List Char} {numeral : Numeral} {number : Number}
      (spelled : SpellsNumeral text numeral) (names : numeral.number? = some number) :
      SpellsScalar text (.num number)
  | text {text chars : List Char} (quoted : SpellsQuoted text chars) :
      SpellsScalar text (.str (String.ofList chars))

/-- Arrays and objects, given how the values inside are spelled. -/
inductive SpellsCompound (grammar : Grammar Json) : Grammar Json where
  | array {text : List Char} {items : List Json} (enclosed : Enclosed grammar '[' ']' text items) :
      SpellsCompound grammar text (.arr items)
  | object {text : List Char} {members : List (String × Json)}
      (enclosed : Enclosed (SpellsMember grammar) '{' '}' text members) :
      SpellsCompound grammar text (.object members)

/-- Values with at most so many levels of arrays and objects. -/
def Spells : Nat → Grammar Json
  | 0 => SpellsScalar
  | depth + 1 => fun text value =>
      SpellsScalar text value ∨ SpellsCompound (Spells depth) text value

/-- The whole text of a value. -/
def Written (depth : Nat) : Grammar Json :=
  Padded (Spells depth)

end Dialogue.Json

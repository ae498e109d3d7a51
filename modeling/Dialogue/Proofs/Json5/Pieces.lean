import Dialogue.Json.Printer
import Dialogue.Json5.Content
import Dialogue.Json5.Parser
import Dialogue.Proofs.Json.Scanning
import Dialogue.Proofs.Number.Decimal
/-!
# Reading printed numbers and texts

The digits of a printed number are read as one number, up to what ends a value.  A printed text is
read as the pieces of its characters, with one exception: line and paragraph separators are printed
as they are, but a line may not end inside quotes.  What is read means what was printed, except that
a word is rounded to a double.
-/

namespace Dialogue.Json5

/-! ### Numbers -/

/-- What follows a printed value: nothing, a comma or the end of the line. -/
def EndsValue (rest : List Char) : Prop :=
  ∀ c ∈ rest.head?, c = ',' ∨ c = '\n'

/-- What ends a value does not go on with a number. -/
theorem EndsValue.head_ne {rest : List Char} (ends : EndsValue rest) :
    ∀ c ∈ rest.head?, c.isDigit = false ∧ c ≠ '.' ∧ c ≠ 'e' ∧ c ≠ 'E' ∧ c ≠ 'x' ∧ c ≠ 'X' := by
  intro c first
  rcases ends c first with rfl | rfl <;> decide

theorem readDecimal_digits (n : Nat) {rest : List Char} (ends : EndsValue rest) :
    readDecimal (decimalDigits n ++ rest) =
      some (.decimal (decimalDigits n) none none, rest) := by
  have other := ends.head_ne
  have read := Json.readDigits_append (fun _ => isDigit_of_mem_decimalDigits (n := n))
    fun c first => (other c first).1
  have exponent : readExponent rest = some (none, rest) := by
    cases rest with
    | nil => rfl
    | cons c later =>
        obtain ⟨_, _, lower, upper, _⟩ := other c rfl
        simp [readExponent, Json.readExponent, lower, upper]
  have point : ∀ later, rest ≠ '.' :: later := by
    rintro later rfl
    exact (other '.' rfl).2.1 rfl
  have leading := (Json.wholeDigits_decimalDigits n).2
  unfold readDecimal
  rw [read]
  split
  · next same => exact absurd (Prod.mk.inj same).1 (decimalDigits_ne_nil n)
  · next same => exact absurd (Prod.mk.inj same).1 (decimalDigits_ne_nil n)
  · next same => exact absurd (Prod.mk.inj same).1 (leading _ _)
  · next same => exact absurd (Prod.mk.inj same).2 (point _)
  · next same =>
      obtain ⟨rfl, rfl⟩ := Prod.mk.inj same
      rw [exponent]
      rfl

/-- The first character of a printed number is a digit, and nothing but the number's end follows a
zero. -/
theorem of_digits_eq_cons {n : Nat} {rest later : List Char} {c : Char}
    (same : decimalDigits n ++ rest = c :: later) :
    c.isDigit = true ∧ (c = '0' → rest = later) := by
  rcases Nat.eq_zero_or_pos n with rfl | positive
  · obtain ⟨rfl, rfl⟩ := List.cons.inj same
    exact ⟨rfl, fun _ => rfl⟩
  · cases digits : decimalDigits n with
    | nil => exact absurd digits (decimalDigits_ne_nil n)
    | cons first others =>
        rw [digits, List.cons_append] at same
        obtain ⟨rfl, _⟩ := List.cons.inj same
        refine ⟨isDigit_of_mem_decimalDigits (digits ▸ List.mem_cons_self), ?_⟩
        rintro rfl
        exact absurd (by rw [digits]; rfl) (head?_decimalDigits positive)

theorem readMagnitude_digits (n : Nat) {rest : List Char} (ends : EndsValue rest) :
    readMagnitude (decimalDigits n ++ rest) =
      some (.decimal (decimalDigits n) none none, rest) := by
  have other := ends.head_ne
  rw [← readDecimal_digits n ends]
  unfold readMagnitude
  split
  · next same =>
      obtain rfl := (of_digits_eq_cons same).2 rfl
      exact absurd rfl (other 'x' rfl).2.2.2.2.1
  · next same =>
      obtain rfl := (of_digits_eq_cons same).2 rfl
      exact absurd rfl (other 'X' rfl).2.2.2.2.2
  · next same => cases (of_digits_eq_cons same).1
  · next same => cases (of_digits_eq_cons same).1
  · rfl

theorem readNumber_digits (n : Nat) {rest : List Char} (ends : EndsValue rest) :
    readNumber (decimalDigits n ++ rest) =
      some (.num ⟨.none, .decimal (decimalDigits n) none none⟩, rest) := by
  have digit : ∀ c ∈ decimalDigits n, c.isDigit = true := fun _ => isDigit_of_mem_decimalDigits
  have read := readMagnitude_digits n ends
  cases digits : decimalDigits n with
  | nil => exact absurd digits (decimalDigits_ne_nil n)
  | cons first later =>
      rw [digits] at read digit
      have isDigit := digit first List.mem_cons_self
      have plus : first ≠ '+' := by rintro rfl; cases isDigit
      have minus : first ≠ '-' := by rintro rfl; cases isDigit
      rw [List.cons_append] at read ⊢
      rw [readNumber]
      · rw [read]
        rfl
      · intro _ same; exact plus (List.cons.inj same).1
      · intro _ same; exact minus (List.cons.inj same).1

/-- A printed word means the word that the double nearest to it is cut to. -/
theorem readWord_digits (value : UInt64) :
    Tree.readWord (.num ⟨.none, .decimal (decimalDigits value.toNat) none none⟩) =
      match Double.ofRatio? false value.toNat 1 with
      | some nearest => .ok nearest.toWord
      | none => .error .numberTooLarge := by
  have read : decimalDouble false (decimalDigits value.toNat) [] none =
      match Double.ofRatio? false value.toNat 1 with
      | some nearest => .ok nearest
      | none => .error .numberTooLarge := by
    rw [decimalDouble, digitsValue_decimalDigits, ← toDouble?_word]
    rfl
  have floating : Spelling.floating ⟨.none, .decimal (decimalDigits value.toNat) none none⟩ =
      (decimalDouble false (decimalDigits value.toNat) [] none).map .finite := rfl
  rw [Tree.readWord, Spelling.word, floating, read]
  cases Double.ofRatio? false value.toNat 1 <;> rfl

/-- A printed word means itself exactly if it is a double. -/
theorem readWord_digits_eq_ok_iff (value : UInt64) :
    Tree.readWord (.num ⟨.none, .decimal (decimalDigits value.toNat) none none⟩) = .ok value ↔
      ExactWord value := by
  rw [readWord_digits, ExactWord]
  cases Double.ofRatio? false value.toNat 1 <;> simp

/-! ### Texts -/

/-- Line separator and paragraph separator. -/
def isSeparator (c : Char) : Bool :=
  c = '\u2028' || c = '\u2029'

/-- Reading takes a text inside quotes only if no line ends in it. -/
def Legible (text : List Char) : Prop :=
  ∀ c ∈ text, isSeparator c = false

-- Along the text: there are too many characters to try them all.
instance (text : List Char) : Decidable (Legible text) :=
  List.decidableBAll (isSeparator · = false) text

/-- The piece that a printed character is read as. -/
def printedPiece (c : Char) : Piece :=
  if c = '"' then .escape '"'
  else if c = '\\' then .escape '\\'
  else if c = '\n' then .escape 'n'
  else if c = '\r' then .escape 'r'
  else if c = '\t' then .escape 't'
  else if c = '\x08' then .escape 'b'
  else if c = '\x0c' then .escape 'f'
  else if c.toNat < 0x20 then .unit c.toNat
  else .char c

/-- The four digits of a printed control character spell its number. -/
theorem hexUnit?_of_control {n : Nat} (control : n < 0x20) :
    Json.hexUnit? '0' '0' (Json.hexDigit (n / 16)) (Json.hexDigit (n % 16)) = some n := by
  have checked : ∀ n < 0x20,
      Json.hexUnit? '0' '0' (Json.hexDigit (n / 16)) (Json.hexDigit (n % 16)) = some n := by
    decide
  exact checked n control

/-- The three ways in which a character is printed, and the piece that it is read as. -/
inductive Printed (c : Char) : List Char → Piece → Prop where
  | short {letter : Char} (alone : isShortEscape letter = true) (goesOn : isLineEnd letter = false)
      (means : escaped letter = c) (inLine : isSeparator c = false) :
      Printed c ['\\', letter] (.escape letter)
  | control (small : c.toNat < 0x20) :
      Printed c ['\\', 'u', '0', '0', Json.hexDigit (c.toNat / 16), Json.hexDigit (c.toNat % 16)]
        (.unit c.toNat)
  | plain (quote : c ≠ '"') (backslash : c ≠ '\\') (ends : isLineEnd c = isSeparator c) :
      Printed c [c] (.char c)

/-- Every character is printed in one of these ways. -/
theorem printed_escaped (c : Char) : Printed c (Json.escaped c) (printedPiece c) := by
  unfold Json.escaped printedPiece
  by_cases quote : c = '"'
  · subst quote
    exact .short rfl rfl rfl rfl
  by_cases backslash : c = '\\'
  · subst backslash
    exact .short rfl rfl rfl rfl
  by_cases lineFeed : c = '\n'
  · subst lineFeed
    exact .short rfl rfl rfl rfl
  by_cases carriageReturn : c = '\r'
  · subst carriageReturn
    exact .short rfl rfl rfl rfl
  by_cases tab : c = '\t'
  · subst tab
    exact .short rfl rfl rfl rfl
  by_cases backspace : c = '\x08'
  · subst backspace
    exact .short rfl rfl rfl rfl
  by_cases formFeed : c = '\x0c'
  · subst formFeed
    exact .short rfl rfl rfl rfl
  simp only [quote, backslash, lineFeed, carriageReturn, tab, backspace, formFeed, if_false]
  by_cases small : c.toNat < 0x20
  · rw [if_pos small, if_pos small]
    exact .control small
  · rw [if_neg small, if_neg small]
    exact .plain quote backslash (by simp [isLineEnd, isSeparator, lineFeed, carriageReturn])

/-- A printed character is read as its piece, unless it is a separator. -/
theorem readQuoted_escaped (c : Char) (rest : List Char) :
    readQuoted '"' (Json.escaped c ++ rest) =
      if isSeparator c then none else cons (printedPiece c) (readQuoted '"' rest) := by
  have printed := printed_escaped c
  generalize Json.escaped c = chars, printedPiece c = piece at printed ⊢
  cases printed with
  | @short letter alone goesOn means inLine =>
      have other : letter ≠ '\r' ∧ letter ≠ 'x' ∧ letter ≠ 'u' := by
        refine ⟨?_, ?_, ?_⟩ <;> rintro rfl <;> simp [isLineEnd, isShortEscape] at alone goesOn
      simp only [List.cons_append, List.nil_append]
      rw [readQuoted]
      · simp [goesOn, alone, inLine]
      all_goals
        intros
        simp_all
  | control small =>
      have inLine : isSeparator c = false := by
        rw [isSeparator, Bool.or_eq_false_iff, decide_eq_false_iff_not, decide_eq_false_iff_not]
        constructor <;> rintro rfl <;> exact absurd small (by decide)
      simp [readQuoted, hexUnit?_of_control small, inLine]
  | plain quote backslash ends =>
      simp only [List.cons_append, List.nil_append]
      rw [readQuoted]
      · simp [quote, backslash, ends]
      all_goals
        intros
        contradiction

/-- A printed text is read as the pieces of its characters, if no line ends in it. -/
theorem readQuoted_text (text rest : List Char) :
    readQuoted '"' (text.flatMap Json.escaped ++ '"' :: rest) =
      if Legible text then some (text.map printedPiece, rest) else none := by
  induction text with
  | nil => simp [readQuoted, Legible]
  | cons c later inductionHypothesis =>
      rw [List.flatMap_cons, List.append_assoc, readQuoted_escaped, inductionHypothesis]
      by_cases separator : isSeparator c = true
      · simp [separator, Legible]
      · by_cases legible : Legible later
        · have all : Legible (c :: later) :=
            List.forall_mem_cons.mpr ⟨Bool.not_eq_true _ ▸ separator, legible⟩
          simp [separator, legible, all, cons]
        · have some : ¬Legible (c :: later) := fun all => legible (List.forall_mem_cons.mp all).2
          simp [separator, legible, some, cons]

/-- The piece of a printed character stands for this character. -/
theorem textChars_printedPiece (c : Char) (rest : List Piece) :
    textChars (printedPiece c :: rest) = (textChars rest).map (c :: ·) := by
  have printed := printed_escaped c
  generalize Json.escaped c = chars, printedPiece c = piece at printed ⊢
  cases printed with
  | short alone goesOn means inLine => rw [textChars, means]
  | control small =>
      obtain ⟨high, low⟩ := Json.not_surrogate_of_lt (Nat.lt_trans small (by decide))
      conv => lhs; unfold textChars
      simp [low, high]
  | plain quote backslash ends => rw [textChars]

/-- The pieces of printed characters stand for these characters. -/
theorem textChars_printed (text : List Char) : textChars (text.map printedPiece) = .ok text := by
  induction text with
  | nil => rfl
  | cons c later inductionHypothesis =>
      rw [List.map_cons, textChars_printedPiece, inductionHypothesis]
      rfl

/-- The pieces of a printed text stand for this text. -/
theorem text_printed (value : String) : text (value.toList.map printedPiece) = .ok value := by
  rw [text, textChars_printed, Except.map, String.ofList_toList]

end Dialogue.Json5

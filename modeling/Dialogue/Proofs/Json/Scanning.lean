import Dialogue.Proofs.Json.Grammar
import Dialogue.Proofs.Number.Decimal
/-!
# Scanning JSON text

Blanks, quoted texts and numerals at the front of a text.  What is scanned is spelled as the grammar
says, and every spelling is scanned to its end: a quoted text whatever follows it, a numeral if what
follows does not go on with a number.
-/

namespace Dialogue.Json

/-! ### Blanks -/

theorem Blanks.append {first second : List Char} (blank : Blanks first) (others : Blanks second) :
    Blanks (first ++ second) :=
  List.forall_mem_append.mpr ⟨blank, others⟩

theorem blanks_nil : Blanks [] := by
  simp [Blanks]

/-- Skipping takes blanks and nothing else. -/
theorem exists_blanks (text : List Char) :
    ∃ before, Blanks before ∧ text = before ++ skipBlanks text :=
  ⟨text.takeWhile isBlank, fun _ member => List.all_eq_true.mp List.all_takeWhile _ member,
    List.takeWhile_append_dropWhile.symm⟩

theorem skipBlanks_append {before : List Char} (blank : Blanks before) (rest : List Char) :
    skipBlanks (before ++ rest) = skipBlanks rest :=
  List.dropWhile_append_of_pos blank

theorem skipBlanks_cons {c : Char} (rest : List Char) (notBlank : isBlank c = false) :
    skipBlanks (c :: rest) = c :: rest := by
  simp [skipBlanks, notBlank]

/-- What follows blanks in front of a mark that is none. -/
theorem skipBlanks_mark {before : List Char} (blank : Blanks before) (mark : Char)
    (rest : List Char) (notBlank : isBlank mark = false) :
    skipBlanks (before ++ mark :: rest) = mark :: rest := by
  rw [skipBlanks_append blank, skipBlanks_cons rest notBlank]

theorem skipBlanks_eq_nil_iff {text : List Char} : skipBlanks text = [] ↔ Blanks text := by
  constructor
  · intro nothing
    obtain ⟨before, blank, whole⟩ := exists_blanks text
    rw [nothing, List.append_nil] at whole
    exact whole ▸ blank
  · intro blank
    have skipped := skipBlanks_append blank []
    rwa [List.append_nil] at skipped

/-! ### Quoted text -/

/-- No small number is a surrogate. -/
theorem not_surrogate_of_lt {unit : Nat} (small : unit < 0xD800) :
    isHighSurrogate unit = false ∧ isLowSurrogate unit = false := by
  simp only [isHighSurrogate, isLowSurrogate, Bool.and_eq_false_iff, decide_eq_false_iff_not]
  omega

/-- A spelled character is read before what follows. -/
theorem SpellsChar.readQuoted {spelled : List Char} {c : Char} (spells : SpellsChar spelled c)
    (rest : List Char) :
    readQuoted (spelled ++ rest) =
      (Json.readQuoted rest).map fun (text, rest) => (c :: text, rest) := by
  cases spells with
  | plain printable noQuote noEscape =>
      rw [List.cons_append, List.nil_append, Json.readQuoted]
      · simp [printable, noEscape]
      all_goals
        intros
        contradiction
  | @short letter _ named =>
      have noUnit : letter ≠ 'u' := by
        rintro rfl
        cases named
      simp only [List.cons_append, List.nil_append]
      rw [Json.readQuoted]
      · rw [named]
      · intros
        contradiction
  | unit digits notHigh notLow =>
      simp [Json.readQuoted, digits, notHigh, notLow]
  | pair digits high others low =>
      simp [Json.readQuoted, digits, high, others, low]

/-- A spelled text is read up to the closing quote. -/
theorem SpellsText.readQuoted {spelled chars : List Char} (spells : SpellsText spelled chars)
    (rest : List Char) : readQuoted (spelled ++ '"' :: rest) = some (chars, rest) := by
  induction spells with
  | nil => rfl
  | cons first later inductionHypothesis =>
      rw [List.append_assoc, first.readQuoted, inductionHypothesis]
      rfl

/-- A spelled character goes in front of what is read after it. -/
theorem SpellsChar.exists_text {spelled later chars rest : List Char} {c : Char}
    (first : SpellsChar spelled c)
    (others : ∀ {chars rest : List Char}, Json.readQuoted later = some (chars, rest) →
      ∃ spelled, SpellsText spelled chars ∧ later = spelled ++ '"' :: rest)
    (read : ((Json.readQuoted later).map fun (text, rest) => (c :: text, rest)) =
      some (chars, rest)) :
    ∃ whole, SpellsText whole chars ∧ spelled ++ later = whole ++ '"' :: rest := by
  obtain ⟨⟨text, _⟩, found, same⟩ := Option.map_eq_some_iff.mp read
  obtain ⟨rfl, rfl⟩ := Prod.mk.inj same
  obtain ⟨spelledOthers, spells, rfl⟩ := others found
  exact ⟨spelled ++ spelledOthers, .cons first spells, by simp⟩

/-- What is read up to a quote is spelled so. -/
theorem spellsText_of_readQuoted {text chars rest : List Char}
    (read : readQuoted text = some (chars, rest)) :
    ∃ spelled, SpellsText spelled chars ∧ text = spelled ++ '"' :: rest := by
  fun_induction readQuoted text generalizing chars rest with
  | case1 => cases read
  | case2 rest =>
      obtain ⟨rfl, rfl⟩ := Prod.mk.inj (Option.some.inj read)
      exact ⟨[], .nil, rfl⟩
  | case3 => cases read
  | case4 a b c d unit digits high e f g h rest none => cases read
  | case5 a b c d unit digits high e f g h rest low others isLow inductionHypothesis =>
      exact (SpellsChar.pair digits high others isLow).exists_text inductionHypothesis read
  | case6 => cases read
  | case7 => cases read
  | case8 => cases read
  | case9 a b c d rest unit digits notHigh notLow inductionHypothesis =>
      rw [Bool.not_eq_true] at notHigh notLow
      exact (SpellsChar.unit digits notHigh notLow).exists_text inductionHypothesis read
  | case10 => cases read
  | case11 c rest notUnit meant named inductionHypothesis =>
      exact (SpellsChar.short named).exists_text inductionHypothesis read
  | case12 => cases read
  | case13 c rest noQuote _ _ allowed inductionHypothesis =>
      rw [Bool.or_eq_true, not_or, decide_eq_true_iff, decide_eq_true_iff] at allowed
      exact (SpellsChar.plain allowed.1 noQuote allowed.2).exists_text inductionHypothesis read

/-! ### Numerals -/

theorem readDigits_append {digits rest : List Char} (all : ∀ c ∈ digits, c.isDigit = true)
    (ends : ∀ c ∈ rest.head?, c.isDigit = false) :
    readDigits (digits ++ rest) = (digits, rest) := by
  rw [readDigits, List.takeWhile_append_of_pos all, List.dropWhile_append_of_pos all]
  cases rest with
  | nil => simp
  | cons c later =>
      have other := ends c rfl
      simp [other]

theorem append_of_readDigits {text digits rest : List Char}
    (read : readDigits text = (digits, rest)) :
    text = digits ++ rest ∧ ∀ c ∈ digits, c.isDigit = true := by
  obtain ⟨rfl, rfl⟩ := Prod.mk.inj read
  exact ⟨List.takeWhile_append_dropWhile.symm, fun _ => List.all_eq_true.mp List.all_takeWhile _⟩

theorem Digits.exists_digit {text : List Char} (nonempty : Digits text) :
    ∃ c tail, text = c :: tail ∧ c.isDigit = true := by
  obtain ⟨first, others, rfl⟩ := List.exists_cons_of_ne_nil nonempty.1
  exact ⟨first, others, rfl, nonempty.2 first List.mem_cons_self⟩

/-- The digits of a printed number are those of a whole number. -/
theorem wholeDigits_decimalDigits (n : Nat) : WholeDigits (decimalDigits n) := by
  refine ⟨⟨decimalDigits_ne_nil n, fun _ => isDigit_of_mem_decimalDigits⟩, ?_⟩
  intro second later same
  rcases Nat.eq_zero_or_pos n with rfl | positive
  · cases same
  · exact head?_decimalDigits positive (by rw [same]; rfl)

/-- What does not go on with a numeral. -/
def Stops (rest : List Char) : Prop :=
  ∀ c ∈ rest.head?, c.isDigit = false ∧ c ≠ '.' ∧ c ≠ 'e' ∧ c ≠ 'E'

theorem SpellsFraction.readFraction {spelled rest : List Char} {fraction : Option (List Char)}
    (spells : SpellsFraction spelled fraction)
    (ends : ∀ c ∈ rest.head?, c.isDigit = false ∧ c ≠ '.') :
    readFraction (spelled ++ rest) = some (fraction, rest) := by
  cases spells with
  | absent =>
      rw [List.nil_append, Json.readFraction]
      rintro later rfl
      exact (ends '.' rfl).2 rfl
  | @present digits nonempty =>
      obtain ⟨first, others, rfl⟩ := List.exists_cons_of_ne_nil nonempty.1
      rw [List.cons_append, Json.readFraction,
        readDigits_append nonempty.2 fun c head => (ends c head).1]

theorem spellsFraction_of_readFraction {text rest : List Char} {fraction : Option (List Char)}
    (read : readFraction text = some (fraction, rest)) :
    ∃ spelled, SpellsFraction spelled fraction ∧ text = spelled ++ rest := by
  unfold readFraction at read
  split at read
  · next later =>
      split at read
      · cases read
      · next digits after nonempty found =>
          obtain ⟨rfl, rfl⟩ := Prod.mk.inj (Option.some.inj read)
          obtain ⟨rfl, all⟩ := append_of_readDigits found
          exact ⟨'.' :: digits, .present ⟨nonempty, all⟩, rfl⟩
  · obtain ⟨rfl, rfl⟩ := Prod.mk.inj (Option.some.inj read)
    exact ⟨[], .absent, rfl⟩

theorem readExponentDigits_append (negative : Bool) {digits rest : List Char}
    (nonempty : Digits digits) (ends : ∀ c ∈ rest.head?, c.isDigit = false) :
    readExponentDigits negative (digits ++ rest) = some (some ⟨negative, digits⟩, rest) := by
  obtain ⟨first, others, rfl⟩ := List.exists_cons_of_ne_nil nonempty.1
  rw [readExponentDigits, readDigits_append nonempty.2 ends]

theorem append_of_readExponentDigits {negative : Bool} {text rest : List Char}
    {exponent : Option ExponentPart}
    (read : readExponentDigits negative text = some (exponent, rest)) :
    ∃ digits, Digits digits ∧ exponent = some ⟨negative, digits⟩ ∧ text = digits ++ rest := by
  rw [readExponentDigits] at read
  split at read
  · cases read
  · next digits after nonempty found =>
      obtain ⟨rfl, rfl⟩ := Prod.mk.inj (Option.some.inj read)
      obtain ⟨rfl, all⟩ := append_of_readDigits found
      exact ⟨digits, ⟨nonempty, all⟩, rfl, rfl⟩

theorem SpellsExponent.readExponent {spelled rest : List Char} {exponent : Option ExponentPart}
    (spells : SpellsExponent spelled exponent) (stops : Stops rest) :
    readExponent (spelled ++ rest) = some (exponent, rest) := by
  cases spells with
  | absent =>
      cases rest with
      | nil => rfl
      | cons c later =>
          obtain ⟨_, _, lower, upper⟩ := stops c rfl
          simp [Json.readExponent, lower, upper]
  | @present mark sign digits negative marked signed nonempty =>
      have marks : (decide (mark = 'e') || decide (mark = 'E')) = true := by simpa using marked
      have read := readExponentDigits_append negative nonempty fun c head => (stops c head).1
      unfold Json.readExponent
      simp only [List.cons_append, if_pos marks, List.append_assoc]
      cases signed with
      | plus => exact read
      | other sign =>
          cases sign with
          | minus => exact read
          | none =>
              obtain ⟨first, others, rfl, digit⟩ := nonempty.exists_digit
              rw [List.nil_append]
              split
              · next same =>
                  obtain ⟨rfl, _⟩ := List.cons.inj same
                  cases digit
              · next same =>
                  obtain ⟨rfl, _⟩ := List.cons.inj same
                  cases digit
              · exact read

theorem spellsExponent_of_readExponent {text rest : List Char} {exponent : Option ExponentPart}
    (read : readExponent text = some (exponent, rest)) :
    ∃ spelled, SpellsExponent spelled exponent ∧ text = spelled ++ rest := by
  unfold readExponent at read
  split at read
  · next mark later =>
      split at read
      · next marks =>
          have marked : mark = 'e' ∨ mark = 'E' := by simpa using marks
          split at read
          all_goals
            obtain ⟨digits, nonempty, rfl, rfl⟩ := append_of_readExponentDigits read
          · exact ⟨mark :: '+' :: digits, .present marked .plus nonempty, rfl⟩
          · exact ⟨mark :: '-' :: digits, .present marked (.other .minus) nonempty, rfl⟩
          · exact ⟨mark :: digits, .present marked (.other .none) nonempty, rfl⟩
      · obtain ⟨rfl, rfl⟩ := Prod.mk.inj (Option.some.inj read)
        exact ⟨[], .absent, rfl⟩
  · obtain ⟨rfl, rfl⟩ := Prod.mk.inj (Option.some.inj read)
    exact ⟨[], .absent, rfl⟩

/-- What stands behind the fraction of a numeral does not go on with the fraction. -/
theorem SpellsExponent.head {spelled rest : List Char} {exponent : Option ExponentPart}
    (spells : SpellsExponent spelled exponent) (stops : Stops rest) :
    ∀ c ∈ (spelled ++ rest).head?, c.isDigit = false ∧ c ≠ '.' := by
  intro c head
  cases spells with
  | absent => exact ⟨(stops c head).1, (stops c head).2.1⟩
  | present marked signed nonempty =>
      cases head
      rcases marked with rfl | rfl <;> decide

/-- What stands behind the whole digits of a numeral does not go on with them. -/
theorem SpellsFraction.head {spelled rest : List Char} {fraction : Option (List Char)}
    (spells : SpellsFraction spelled fraction)
    (ends : ∀ c ∈ rest.head?, c.isDigit = false ∧ c ≠ '.') :
    ∀ c ∈ (spelled ++ rest).head?, c.isDigit = false := by
  intro c head
  cases spells with
  | absent => exact (ends c head).1
  | present nonempty =>
      cases head
      rfl

/-- A spelled numeral is read if what follows does not go on with it. -/
theorem SpellsNumeral.readNumeral {spelled rest : List Char} {numeral : Numeral}
    (spells : SpellsNumeral spelled numeral) (stops : Stops rest) :
    readNumeral (spelled ++ rest) = some (numeral, rest) := by
  obtain @⟨sign, whole, fraction, exponent, negative, decimals, scale, signed, digits, fractional,
    scaled⟩ := spells
  have magnitude (negative : Bool) :
      readMagnitude negative (whole ++ (fraction ++ (exponent ++ rest))) =
        some (⟨negative, whole, decimals, scale⟩, rest) := by
    have read := readDigits_append digits.1.2 (fractional.head (scaled.head stops))
    unfold readMagnitude
    rw [read]
    split
    · next same => exact absurd (Prod.mk.inj same).1 digits.1.1
    · next same => exact absurd (Prod.mk.inj same).1 (digits.2 _ _)
    · next same =>
        obtain ⟨rfl, rfl⟩ := Prod.mk.inj same
        simp [fractional.readFraction (scaled.head stops), scaled.readExponent stops]
  simp only [List.append_assoc]
  cases signed with
  | minus => exact magnitude true
  | none =>
      have read := magnitude false
      obtain ⟨first, others, rfl, digit⟩ := digits.1.exists_digit
      rw [List.nil_append]
      unfold Json.readNumeral
      split
      · next same =>
          obtain ⟨rfl, _⟩ := List.cons.inj same
          cases digit
      · exact read

/-- What is read as a numeral is spelled so. -/
theorem spellsNumeral_of_readNumeral {text rest : List Char} {numeral : Numeral}
    (read : readNumeral text = some (numeral, rest)) :
    ∃ spelled, SpellsNumeral spelled numeral ∧ text = spelled ++ rest := by
  have magnitude {sign text : List Char} {negative : Bool} (signed : SpellsSign sign negative)
      (read : readMagnitude negative text = some (numeral, rest)) :
      ∃ spelled, SpellsNumeral spelled numeral ∧ sign ++ text = spelled ++ rest := by
    rw [readMagnitude] at read
    split at read
    · cases read
    · cases read
    · next whole afterWhole nonempty noLeading found =>
        obtain ⟨⟨decimals, afterFraction⟩, fractional, read⟩ := Option.bind_eq_some_iff.mp read
        obtain ⟨⟨scale, afterExponent⟩, scaled, same⟩ := Option.map_eq_some_iff.mp read
        obtain ⟨rfl, rfl⟩ := Prod.mk.inj same
        obtain ⟨rfl, all⟩ := append_of_readDigits found
        obtain ⟨fraction, spellsFraction, rfl⟩ := spellsFraction_of_readFraction fractional
        obtain ⟨exponent, spellsExponent, rfl⟩ := spellsExponent_of_readExponent scaled
        exact ⟨sign ++ (whole ++ (fraction ++ exponent)),
          .intro signed ⟨⟨nonempty, all⟩, noLeading⟩ spellsFraction spellsExponent, by simp⟩
  unfold readNumeral at read
  split at read
  · exact magnitude .minus read
  · exact magnitude .none read

end Dialogue.Json

import Dialogue.Proofs.Json.Reading
import Dialogue.Proofs.Json5.Reading
import Dialogue.Text.Blank
/-!
# Compact text is read back

The compact text of a value without doubles is one of its spellings, if members are put in key order
and nesting is deep enough; so it is read back as this value.  It has no control characters, thus no
line breaks, and it begins and ends with a character that is neither white space nor a number sign.
-/

namespace Dialogue.Json

open Dialogue.Json5 (Whole WholeItems WholeMembers hexUnit?_of_control)

/-! ### Levels -/

mutual

/-- The number of arrays and objects inside each other. -/
def levels : Json → Nat
  | .arr items => levelsItems items + 1
  | .obj ⟨entries⟩ => levelsMembers entries + 1
  | _ => 0

def levelsItems : List Json → Nat
  | [] => 0
  | value :: rest => max (levels value) (levelsItems rest)

def levelsMembers : List (String × Json) → Nat
  | [] => 0
  | (_, value) :: rest => max (levels value) (levelsMembers rest)

end

/-! ### Spellings that are printed -/

/-- A printed character spells this character. -/
theorem spellsChar_escaped (c : Char) : SpellsChar (escaped c) c := by
  unfold escaped
  -- The characters that are escaped by a letter.
  iterate 7
    split
    · next same =>
        subst same
        exact .short rfl
  split
  · next control =>
      obtain ⟨notHigh, notLow⟩ := not_surrogate_of_lt (Nat.lt_trans control (by decide))
      have spells := SpellsChar.unit (hexUnit?_of_control control) notHigh notLow
      rwa [Char.ofNat_toNat] at spells
  · next quote backslash _ _ _ _ _ printable => exact .plain printable quote backslash

theorem spellsText_escaped (text : List Char) : SpellsText (text.flatMap escaped) text := by
  induction text with
  | nil => exact .nil
  | cons c rest inductionHypothesis => exact .cons (spellsChar_escaped c) inductionHypothesis

theorem spellsQuoted_quotedChars (text : List Char) : SpellsQuoted (quotedChars text) text :=
  ⟨text.flatMap escaped, spellsText_escaped text, rfl⟩

/-- A printed number that is no double spells this number. -/
theorem spellsScalar_number {number : Number} (whole : Whole (.num number)) :
    SpellsScalar (numberChars number) (.num number) := by
  have digits (n : Nat) {sign : List Char} {negative : Bool} (signed : SpellsSign sign negative) :
      SpellsNumeral (sign ++ decimalDigits n) ⟨negative, decimalDigits n, none, none⟩ := by
    have spells := SpellsNumeral.intro signed (wholeDigits_decimalDigits n) .absent .absent
    rwa [List.append_nil, List.append_nil] at spells
  cases number with
  | unsigned value =>
      refine .number (digits value.toNat .none) ?_
      have fits : value.toNat < UInt64.size := value.toNat_lt_size
      simp [Numeral.number?, Number.ofMagnitude?, digitsValue_decimalDigits, fits]
  | negative below =>
      refine .number (digits (below.val + 1) .minus) ?_
      simp [Numeral.number?, Number.ofMagnitude?, digitsValue_decimalDigits]
  | double value => cases whole

/-- A printed key, a colon and what spells a value spell a member. -/
theorem spellsMember_quotedChars (key : String) {grammar : Grammar Json} {text : List Char}
    {value : Json} (spells : grammar text value) :
    SpellsMember grammar (quotedChars key.toList ++ ':' :: text) (key, value) := by
  have member := SpellsMember.intro (spellsQuoted_quotedChars key.toList) blanks_nil blanks_nil
    spells
  rwa [String.ofList_toList] at member

mutual

/-- The compact text of a value spells it with its members in key order. -/
theorem spells_chars : ∀ (value : Json) (depth : Nat), Whole value → value.levels ≤ depth →
    Spells depth value.chars value.arranged
  | .null, depth, _, _ => SpellsScalar.null.spells depth
  | .bool true, depth, _, _ => SpellsScalar.true.spells depth
  | .bool false, depth, _, _ => SpellsScalar.false.spells depth
  | .num _, depth, whole, _ => (spellsScalar_number whole).spells depth
  | .str value, depth, _, _ => by
      have spells := SpellsScalar.text (spellsQuoted_quotedChars value.toList)
      rw [String.ofList_toList] at spells
      exact spells.spells depth
  | .arr [], depth, _, shallow => by
      obtain ⟨depth, rfl⟩ := Nat.exists_eq_add_of_le' shallow
      exact .inr (.array (.empty blanks_nil))
  | .arr (first :: others), depth, whole, shallow => by
      simp only [levels, levelsItems] at shallow
      obtain ⟨depth, rfl⟩ : ∃ smaller, depth = smaller + 1 := ⟨depth - 1, by omega⟩
      obtain ⟨listed, spells, same⟩ := listed_moreItems others depth whole.2 (by omega)
        (spells_chars first depth whole.1 (by omega))
      rw [chars, same]
      exact .inr (.array (.items spells))
  | .obj ⟨[]⟩, depth, _, shallow => by
      obtain ⟨depth, rfl⟩ := Nat.exists_eq_add_of_le' shallow
      exact .inr (.object (.empty blanks_nil))
  | .obj ⟨(key, value) :: others⟩, depth, whole, shallow => by
      simp only [levels, levelsMembers] at shallow
      obtain ⟨depth, rfl⟩ : ∃ smaller, depth = smaller + 1 := ⟨depth - 1, by omega⟩
      obtain ⟨listed, spells, same⟩ := listed_moreMembers others depth whole.2 (by omega)
        (spellsMember_quotedChars key (spells_chars value depth whole.1 (by omega)))
      rw [chars, same]
      exact .inr (.object (.items spells))

/-- The items after an item, with the closing bracket. -/
theorem listed_moreItems : ∀ (items : List Json) (depth : Nat), WholeItems items →
    levelsItems items ≤ depth → ∀ {text : List Char} {first : Json}, Spells depth text first →
    ∃ listed, Listed (Spells depth) listed (first :: arrangedItems items) ∧
      text ++ moreItems items = listed ++ [']']
  | [], _, _, _, text, first, spells =>
      ⟨text, .one (padded_of_spells spells), by rw [moreItems]⟩
  | value :: others, depth, whole, shallow, text, first, spells => by
      rw [levelsItems] at shallow
      obtain ⟨listed, later, same⟩ := listed_moreItems others depth whole.2 (by omega)
        (spells_chars value depth whole.1 (by omega))
      refine ⟨text ++ ',' :: listed, .more (padded_of_spells spells) later, ?_⟩
      rw [moreItems, same, List.append_assoc, List.cons_append]

/-- The members after a member, with the closing brace. -/
theorem listed_moreMembers : ∀ (members : List (String × Json)) (depth : Nat),
    WholeMembers members → levelsMembers members ≤ depth →
    ∀ {text : List Char} {first : String × Json}, SpellsMember (Spells depth) text first →
    ∃ listed, Listed (SpellsMember (Spells depth)) listed (first :: arrangedMembers members) ∧
      text ++ moreMembers members = listed ++ ['}']
  | [], _, _, _, text, first, spells =>
      ⟨text, .one (padded_of_spells spells), by rw [moreMembers]⟩
  | (key, value) :: others, depth, whole, shallow, text, first, spells => by
      rw [levelsMembers] at shallow
      obtain ⟨listed, later, same⟩ := listed_moreMembers others depth whole.2 (by omega)
        (spellsMember_quotedChars key (spells_chars value depth whole.1 (by omega)))
      refine ⟨text ++ ',' :: listed, .more (padded_of_spells spells) later, ?_⟩
      rw [moreMembers, same, List.append_assoc, List.cons_append]

end

/-! ### Values that are kept -/

/-- A value that can be written and read back: no number is a double, the members of objects are in
key order, and nesting is not too deep. -/
structure Portable (value : Json) : Prop where
  whole : Whole value
  inOrder : value.arranged = value
  shallow : value.levels ≤ maxDepth

/-- The compact text of such a value spells this value. -/
theorem Portable.spells {value : Json} (portable : Portable value) :
    Spells maxDepth value.chars value := by
  have spells := spells_chars value maxDepth portable.whole portable.shallow
  rwa [portable.inOrder] at spells

theorem Portable.written {value : Json} (portable : Portable value) :
    Written maxDepth value.chars value :=
  padded_of_spells portable.spells

theorem Portable.ofCharsWithin? {value : Json} (portable : Portable value) :
    ofCharsWithin? maxDepth value.chars = some value :=
  ofCharsWithin?_eq_some_iff.mpr portable.written

/-- What is read back one by one is read back as a list. -/
theorem mapM_map_of_forall {α β ε : Type} {write : α → β} {read : β → Except ε α} {items : List α}
    (back : ∀ item ∈ items, read (write item) = .ok item) :
    (items.map write).mapM read = .ok items := by
  induction items with
  | nil => rfl
  | cons item others inductionHypothesis =>
      obtain ⟨first, rest⟩ := List.forall_mem_cons.mp back
      rw [List.map_cons, List.mapM_cons, first, inductionHypothesis rest]
      rfl

/-! ### One line -/

/-- No control characters. -/
def Printable (text : List Char) : Prop :=
  ∀ c ∈ text, 0x20 ≤ c.toNat

theorem Printable.append {first second : List Char} (one : Printable first)
    (other : Printable second) : Printable (first ++ second) :=
  List.forall_mem_append.mpr ⟨one, other⟩

theorem Printable.cons {c : Char} {text : List Char} (printable : 0x20 ≤ c.toNat)
    (others : Printable text) : Printable (c :: text) :=
  List.forall_mem_cons.mpr ⟨printable, others⟩

theorem printable_nil : Printable [] := by
  simp [Printable]

instance (text : List Char) : Decidable (Printable text) :=
  List.decidableBAll (fun c : Char => 0x20 ≤ c.toNat) text

theorem printable_escaped (c : Char) : Printable (escaped c) := by
  unfold escaped
  iterate 7
    split
    · decide
  split
  · next control =>
      have checked : ∀ n < 0x20,
          Printable ['\\', 'u', '0', '0', hexDigit (n / 16), hexDigit (n % 16)] := by decide
      exact checked c.toNat control
  · next printable => exact .cons (Nat.le_of_not_lt printable) printable_nil

theorem printable_quotedChars (text : List Char) : Printable (quotedChars text) := by
  refine .cons (by decide) (.append ?_ (by decide))
  intro c member
  obtain ⟨original, _, inside⟩ := List.mem_flatMap.mp member
  exact printable_escaped original c inside

theorem printable_decimalDigits (n : Nat) : Printable (decimalDigits n) := by
  intro c member
  have digit := isDigit_of_mem_decimalDigits member
  simp only [Char.isDigit, Bool.and_eq_true, decide_eq_true_iff, UInt32.le_iff_toNat_le] at digit
  exact Nat.le_trans (by decide) digit.1

theorem printable_numberChars {number : Number} (whole : Whole (.num number)) :
    Printable (numberChars number) := by
  cases number with
  | unsigned value => exact printable_decimalDigits value.toNat
  | negative below => exact .cons (by decide) (printable_decimalDigits (below.val + 1))
  | double value => cases whole

mutual

/-- Compact text has no control characters. -/
theorem printable_chars : ∀ value : Json, Whole value → Printable value.chars
  | .null, _ => by rw [chars]; decide
  | .bool true, _ => by rw [chars]; decide
  | .bool false, _ => by rw [chars]; decide
  | .num _, whole => by
      rw [chars]
      exact printable_numberChars whole
  | .str value, _ => by
      rw [chars]
      exact printable_quotedChars value.toList
  | .arr [], _ => by rw [chars]; decide
  | .arr (first :: others), whole => by
      rw [chars]
      exact .cons (by decide) (.append (printable_chars first whole.1)
        (printable_moreItems others whole.2))
  | .obj ⟨[]⟩, _ => by rw [chars]; decide
  | .obj ⟨(key, value) :: others⟩, whole => by
      rw [chars]
      exact .cons (by decide) (.append
        (.append (printable_quotedChars key.toList) (.cons (by decide)
          (printable_chars value whole.1)))
        (printable_moreMembers others whole.2))

theorem printable_moreItems : ∀ items : List Json, WholeItems items → Printable (moreItems items)
  | [], _ => by rw [moreItems]; decide
  | value :: others, whole => by
      rw [moreItems]
      exact .cons (by decide) (.append (printable_chars value whole.1)
        (printable_moreItems others whole.2))

theorem printable_moreMembers : ∀ members : List (String × Json), WholeMembers members →
    Printable (moreMembers members)
  | [], _ => by rw [moreMembers]; decide
  | (key, value) :: others, whole => by
      rw [moreMembers]
      exact .cons (by decide) (.append
        (.append (printable_quotedChars key.toList) (.cons (by decide)
          (printable_chars value whole.1)))
        (printable_moreMembers others whole.2))

end

/-! ### Both ends -/

/-- Neither white space nor a number sign. -/
def Solid (c : Char) : Prop :=
  Text.isBlank c = false ∧ c ≠ '#'

instance (c : Char) : Decidable (Solid c) :=
  inferInstanceAs (Decidable (_ ∧ _))

theorem solid_of_isDigit {c : Char} (digit : c.isDigit = true) : Solid c := by
  constructor
  · simp only [Char.isDigit, Bool.and_eq_true, decide_eq_true_iff, UInt32.le_iff_toNat_le] at digit
    have bounds : 48 ≤ c.toNat ∧ c.toNat ≤ 57 := digit
    rw [Bool.eq_false_iff]
    intro blank
    obtain ⟨range, member, inside⟩ := Text.CodeRanges.has_iff.mp blank
    simp only [Text.blankRanges, List.mem_cons, List.not_mem_nil, or_false] at member
    rcases member with rfl | rfl | rfl | rfl | rfl | rfl | rfl | rfl | rfl | rfl
    all_goals
      simp only at inside
      omega
  · rintro rfl
    cases digit

def SolidStart (text : List Char) : Prop :=
  ∃ c tail, text = c :: tail ∧ Solid c

def SolidEnd (text : List Char) : Prop :=
  ∃ front c, text = front ++ [c] ∧ Solid c

theorem SolidEnd.append {text : List Char} (ends : SolidEnd text) (front : List Char) :
    SolidEnd (front ++ text) := by
  obtain ⟨before, c, rfl, solid⟩ := ends
  exact ⟨front ++ before, c, by simp, solid⟩

/-- A text that begins and ends with such a character. -/
structure Framed (text : List Char) : Prop where
  start : SolidStart text
  ending : SolidEnd text

/-- Whatever stands between two such characters. -/
theorem framed_marks {opening closing : Char} (inner : List Char) (first : Solid opening)
    (last : Solid closing) : Framed (opening :: (inner ++ [closing])) :=
  ⟨⟨opening, _, rfl, first⟩, ⟨opening :: inner, closing, rfl, last⟩⟩

theorem Digits.solidEnd {text : List Char} (digits : Digits text) : SolidEnd text :=
  ⟨text.dropLast, text.getLast digits.1, (List.dropLast_concat_getLast digits.1).symm,
    solid_of_isDigit (digits.2 _ (List.getLast_mem digits.1))⟩

/-- The last character of a numeral is a digit. -/
theorem SpellsNumeral.framed {text : List Char} {numeral : Numeral}
    (spells : SpellsNumeral text numeral) : Framed text := by
  constructor
  · obtain ⟨c, tail, same, rfl | digit⟩ := spells.exists_head
    · exact ⟨'-', tail, same, by decide⟩
    · exact ⟨c, tail, same, solid_of_isDigit digit⟩
  · obtain @⟨sign, whole, fraction, exponent, _, _, _, _, digits, fractional, scaled⟩ := spells
    refine .append ?_ sign
    cases scaled with
    | @present mark signOfExponent _ _ _ _ nonempty =>
        exact ((nonempty.solidEnd.append (mark :: signOfExponent)).append fraction).append whole
    | absent =>
        rw [List.append_nil]
        cases fractional with
        | present nonempty => exact (nonempty.solidEnd.append ['.']).append whole
        | absent =>
            rw [List.append_nil]
            exact digits.1.solidEnd

theorem SpellsScalar.framed {text : List Char} {value : Json} (scalar : SpellsScalar text value) :
    Framed text := by
  cases scalar with
  | null => exact framed_marks ['u', 'l'] (by decide) (by decide)
  | true => exact framed_marks ['r', 'u'] (by decide) (by decide)
  | false => exact framed_marks ['a', 'l', 's'] (by decide) (by decide)
  | number spells _ => exact spells.framed
  | text quoted =>
      obtain ⟨inner, _, rfl⟩ := quoted
      exact framed_marks inner (by decide) (by decide)

theorem Enclosed.framed {α : Type} {grammar : Grammar α} {opening closing : Char}
    {text : List Char} {items : List α} (enclosed : Enclosed grammar opening closing text items)
    (first : Solid opening) (last : Solid closing) : Framed text := by
  cases enclosed with
  | @empty blanks _ => exact framed_marks blanks first last
  | @items listed _ _ => exact framed_marks listed first last

/-- Every spelling of a value begins and ends with such a character. -/
theorem framed_of_spells {depth : Nat} {text : List Char} {value : Json}
    (spells : Spells depth text value) : Framed text := by
  cases depth with
  | zero => exact SpellsScalar.framed spells
  | succ depth =>
      rcases spells with scalar | ⟨enclosed⟩ | ⟨enclosed⟩
      · exact scalar.framed
      · exact enclosed.framed (by decide) (by decide)
      · exact enclosed.framed (by decide) (by decide)

end Dialogue.Json

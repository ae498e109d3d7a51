import Dialogue.Proofs.Json5.Pieces
/-!
# Reading printed values

Pretty text follows the grammar of JSON5, and is read as the tree of the value that was printed if
no line ends inside quotes.  Reading takes exactly the text of the value, whatever follows it.
-/

namespace Dialogue.Json5

open Dialogue.Json (prettyChars prettyItems prettyMembers newLine quotedChars)

/-! ### Between tokens -/

/-- A value may begin with this character: it is no blank, begins neither a comment nor a reference,
and closes nothing. -/
def BeginsValue (c : Char) : Prop :=
  isBlank c = false ∧ c ≠ '/' ∧ c ≠ '$' ∧ c ≠ ']' ∧ c ≠ '}'

instance (c : Char) : Decidable (BeginsValue c) :=
  inferInstanceAs (Decidable (_ ∧ _))

theorem beginsValue_of_isDigit {c : Char} (digit : c.isDigit = true) : BeginsValue c := by
  have checked : ∀ value < 10, BeginsValue (Char.ofNat (48 + value)) := by decide
  have bounds : 48 ≤ c.toNat ∧ c.toNat ≤ 57 := by
    simpa [Char.isDigit, UInt32.le_iff_toNat_le] using digit
  have same : Char.ofNat (48 + (c.toNat - 48)) = c := by
    rw [Nat.add_sub_of_le bounds.1, Char.ofNat_toNat]
  rw [← same]
  exact checked _ (by omega)

/-- Skipping takes blanks and stops at what is none and begins no comment. -/
theorem skipFrom_blanks {c : Char} (rest : List Char) (notSlash : c ≠ '/') :
    skipFrom .blanks (c :: rest) = if isBlank c then skipFrom .blanks rest else some (c :: rest) := by
  conv => lhs; unfold skipFrom
  split <;> simp_all

theorem skip_cons {c : Char} (rest : List Char) (notBlank : isBlank c = false)
    (notSlash : c ≠ '/') : skip (c :: rest) = some (c :: rest) := by
  rw [skip, skipFrom_blanks rest notSlash, notBlank]
  rfl

theorem skip_of_blank {c : Char} (rest : List Char) (blank : isBlank c = true)
    (notSlash : c ≠ '/') : skip (c :: rest) = skip rest := by
  rw [skip, skipFrom_blanks rest notSlash, if_pos blank]
  rfl

/-- What stands at the end of a line is skipped. -/
theorem skip_newLine (level : Nat) (rest : List Char) :
    skip (Json.newLine level ++ rest) = skip rest := by
  have spaces : ∀ count, skip (List.replicate count ' ' ++ rest) = skip rest := by
    intro count
    induction count with
    | zero => rfl
    | succ count inductionHypothesis =>
        rw [List.replicate_succ, List.cons_append, skip_of_blank _ rfl (by decide),
          inductionHypothesis]
  rw [Json.newLine, List.cons_append, skip_of_blank _ rfl (by decide), spaces]

/-- The items after an item, or the closing character. -/
def readTail (item : Json.Reader α) (close : Char) (bound : Nat) : Json.Reader (List α) :=
  fun text =>
    match skip text with
    | some (',' :: rest) => readItems item close bound rest
    | some (c :: rest) => if c = close then some ([], rest) else none
    | _ => none

/-- An item on a line of its own is read before the items after it. -/
theorem readItems_line (item : Json.Reader α) {close : Char} (bound level : Nat) {c : Char}
    {text : List Char} (begins : BeginsValue c) (closes : close = ']' ∨ close = '}') :
    readItems item close (bound + 1) (Json.newLine level ++ c :: text) =
      (item (c :: text)).bind fun (first, rest) =>
        (readTail item close bound rest).map fun (others, rest) => (first :: others, rest) := by
  have other : c ≠ close := by
    rcases closes with rfl | rfl
    · exact begins.2.2.2.1
    · exact begins.2.2.2.2
  rw [readItems, skip_newLine, skip_cons text begins.1 begins.2.1]
  simp only [List.head?_cons, Option.some.injEq, if_neg other]
  congr 1
  funext read
  obtain ⟨first, rest⟩ := read
  simp only [readTail]
  split
  · simp [*]
  · simp [*]
  · simp [*]

/-! ### Values -/

mutual
/-- No number in a value is a double. -/
def Whole : Json → Prop
  | .num (.double _) => False
  | .arr items => WholeItems items
  | .obj ⟨entries⟩ => WholeMembers entries
  | _ => True
def WholeItems : List Json → Prop
  | [] => True
  | value :: rest => Whole value ∧ WholeItems rest
def WholeMembers : List (String × Json) → Prop
  | [] => True
  | (_, value) :: rest => Whole value ∧ WholeMembers rest
end

mutual
/-- The tree that a printed value is read as, if it is read at all. -/
def printedTree? : Json → Option Tree
  | .null => some .null
  | .bool value => some (.bool value)
  | .num (.unsigned value) =>
      some (.num ⟨.none, .decimal (decimalDigits value.toNat) none none⟩)
  | .num (.negative below) =>
      some (.num ⟨.minus, .decimal (decimalDigits (below.val + 1)) none none⟩)
  | .num (.double _) => none
  | .str value =>
      if Legible value.toList then some (.str (value.toList.map printedPiece)) else none
  | .arr items => (printedItems? items).map .arr
  | .obj ⟨entries⟩ => (printedMembers? entries).map .obj
def printedItems? : List Json → Option (List Tree)
  | [] => some []
  | value :: rest =>
      (printedTree? value).bind fun first => (printedItems? rest).map (first :: ·)
def printedMembers? : List (String × Json) → Option (List (List Piece × Tree))
  | [] => some []
  | (key, value) :: rest =>
      if Legible key.toList then
        (printedTree? value).bind fun first =>
          (printedMembers? rest).map ((key.toList.map printedPiece, first) :: ·)
      else none
end

mutual
/-- The texts of a value, keys included. -/
def texts : Json → List String
  | .str text => [text]
  | .arr items => itemTexts items
  | .obj ⟨entries⟩ => memberTexts entries
  | _ => []
def itemTexts : List Json → List String
  | [] => []
  | value :: rest => texts value ++ itemTexts rest
def memberTexts : List (String × Json) → List String
  | [] => []
  | (key, value) :: rest => key :: (texts value ++ memberTexts rest)
end

mutual

/-- A printed value is read only if no line ends in its texts. -/
theorem legible_of_printedTree? : ∀ value : Json, (printedTree? value).isSome →
    ∀ text ∈ texts value, Legible text.toList
  | .str text, printed => by
      rw [printedTree?] at printed
      split at printed
      · next legible => simpa [texts] using legible
      · cases printed
  | .arr items, printed => by
      rw [printedTree?, Option.isSome_map] at printed
      rw [texts]
      exact legible_of_printedItems? items printed
  | .obj ⟨members⟩, printed => by
      rw [printedTree?, Option.isSome_map] at printed
      rw [texts]
      exact legible_of_printedMembers? members printed
  | .null, _ => by simp [texts]
  | .bool _, _ => by simp [texts]
  | .num _, _ => by simp [texts]

theorem legible_of_printedItems? : ∀ items : List Json, (printedItems? items).isSome →
    ∀ text ∈ itemTexts items, Legible text.toList
  | [], _ => by simp [itemTexts]
  | value :: rest, printed => by
      rw [printedItems?, Option.isSome_bind, Option.any_eq_true] at printed
      obtain ⟨first, printedFirst, more⟩ := printed
      rw [Option.isSome_map] at more
      rw [itemTexts, List.forall_mem_append]
      exact ⟨legible_of_printedTree? value (printedFirst ▸ rfl), legible_of_printedItems? rest more⟩

theorem legible_of_printedMembers? : ∀ members : List (String × Json),
    (printedMembers? members).isSome → ∀ text ∈ memberTexts members, Legible text.toList
  | [], _ => by simp [memberTexts]
  | (key, value) :: rest, printed => by
      rw [printedMembers?] at printed
      split at printed
      · next legible =>
          rw [Option.isSome_bind, Option.any_eq_true] at printed
          obtain ⟨first, printedFirst, more⟩ := printed
          rw [Option.isSome_map] at more
          rw [memberTexts, List.forall_mem_cons, List.forall_mem_append]
          exact ⟨legible, legible_of_printedTree? value (printedFirst ▸ rfl),
            legible_of_printedMembers? rest more⟩
      · cases printed

end

/-- A printed value begins like a value. -/
theorem exists_begins (level : Nat) (value : Json) (whole : Whole value) :
    ∃ c tail, prettyChars level value = c :: tail ∧ BeginsValue c := by
  cases value with
  | null => exact ⟨'n', _, by rw [prettyChars], by decide⟩
  | bool value =>
      cases value with
      | true => exact ⟨'t', _, by rw [prettyChars], by decide⟩
      | false => exact ⟨'f', _, by rw [prettyChars], by decide⟩
  | num number =>
      rw [prettyChars]
      cases number with
      | unsigned value =>
          rw [Json.numberChars]
          cases digits : decimalDigits value.toNat with
          | nil => exact absurd digits (decimalDigits_ne_nil _)
          | cons first rest =>
              have digit := isDigit_of_mem_decimalDigits (digits ▸ List.mem_cons_self)
              exact ⟨first, rest, rfl, beginsValue_of_isDigit digit⟩
      | negative below => exact ⟨'-', _, by rw [Json.numberChars], by decide⟩
      | double value => cases whole
  | str text => exact ⟨'"', _, by rw [prettyChars, quotedChars], by decide⟩
  | arr items =>
      cases items with
      | nil => exact ⟨'[', _, by rw [prettyChars], by decide⟩
      | cons first rest => exact ⟨'[', _, by rw [prettyChars], by decide⟩
  | obj members =>
      obtain ⟨_ | ⟨⟨key, value⟩, rest⟩⟩ := members
      · exact ⟨'{', _, by rw [prettyChars], by decide⟩
      · exact ⟨'{', _, by rw [prettyChars], by decide⟩

theorem endsValue_items (level : Nat) (items : List Json) (rest : List Char) :
    EndsValue (prettyItems level items ++ rest) := by
  intro c first
  cases items with
  | nil =>
      rw [prettyItems, newLine] at first
      exact .inr (Option.some.inj first).symm
  | cons value later =>
      rw [prettyItems] at first
      exact .inl (Option.some.inj first).symm

theorem endsValue_members (level : Nat) (members : List (String × Json)) (rest : List Char) :
    EndsValue (prettyMembers level members ++ rest) := by
  intro c first
  cases members with
  | nil =>
      rw [prettyMembers, newLine] at first
      exact .inr (Option.some.inj first).symm
  | cons member later =>
      rw [prettyMembers] at first
      exact .inl (Option.some.inj first).symm

/-- A printed number is read as its spelling. -/
theorem readValue_number (bound depth : Nat) {number : Number} {rest : List Char}
    (whole : Whole (.num number)) (ends : EndsValue rest) :
    readValue bound depth (Json.numberChars number ++ rest) =
      (printedTree? (.num number)).map (·, rest) := by
  cases number with
  | double value => cases whole
  | negative below =>
      rw [Json.numberChars, List.cons_append]
      unfold readValue
      rw [skip_cons _ (by decide) (by decide)]
      simp [readNumber, readMagnitude_digits _ ends, printedTree?]
  | unsigned value =>
      rw [Json.numberChars]
      have read := readNumber_digits value.toNat ends
      cases digits : decimalDigits value.toNat with
      | nil => exact absurd digits (decimalDigits_ne_nil _)
      | cons first later =>
          have digit := isDigit_of_mem_decimalDigits (digits ▸ List.mem_cons_self)
          have begins := beginsValue_of_isDigit digit
          rw [digits, List.cons_append] at read
          rw [List.cons_append]
          unfold readValue
          rw [skip_cons _ begins.1 begins.2.1]
          simp only
          split
          -- No digit begins one of the other values.
          iterate 7
            · next same =>
                obtain ⟨rfl, _⟩ := List.cons.inj same
                cases digit
          · rw [read, printedTree?, digits]
            rfl

theorem readValue_space (bound depth : Nat) (text : List Char) :
    readValue bound depth (' ' :: text) = readValue bound depth text := by
  unfold readValue
  rw [skip_of_blank text rfl (by decide)]

theorem readValue_array (bound depth : Nat) (text : List Char) :
    readValue bound (depth + 1) ('[' :: text) =
      (readItems (readValue bound depth) ']' bound text).map
        fun (items, rest) => (.arr items, rest) := by
  conv => lhs; unfold readValue
  rw [skip_cons _ (by decide) (by decide)]
  simp

theorem readValue_object (bound depth : Nat) (text : List Char) :
    readValue bound (depth + 1) ('{' :: text) =
      (readItems (readMember (readValue bound depth)) '}' bound text).map
        fun (members, rest) => (.obj members, rest) := by
  conv => lhs; unfold readValue
  rw [skip_cons _ (by decide) (by decide)]
  simp

/-- A printed member is read as the pieces of its key and its value. -/
theorem readMember_line (bound depth : Nat) (key text : List Char) :
    readMember (readValue bound depth) (quotedChars key ++ ':' :: ' ' :: text) =
      if Legible key then
        (readValue bound depth text).map fun (value, rest) =>
          ((key.map printedPiece, value), rest)
      else none := by
  rw [readMember, quotedChars, List.cons_append, readKey, List.append_assoc, List.singleton_append,
    readQuoted_text]
  by_cases legible : Legible key
  · rw [if_pos legible, if_pos legible]
    simp only [Option.bind_some]
    rw [skip_cons _ (by decide) (by decide)]
    simp only [readValue_space]
  · rw [if_neg legible, if_neg legible]
    rfl

/-- Printed items are read one after the other, if the first of them is read and those after it
are. -/
theorem readItems_pretty {bound depth loop level : Nat} {first : Json} {others : List Json}
    {rest : List Char} (whole : Whole first)
    (one : readValue bound depth
      (prettyChars (level + 1) first ++ (prettyItems level others ++ rest)) =
        (printedTree? first).map (·, prettyItems level others ++ rest))
    (more : readTail (readValue bound depth) ']' loop (prettyItems level others ++ rest) =
      (printedItems? others).map (·, rest)) :
    readItems (readValue bound depth) ']' (loop + 1)
        (newLine (level + 1) ++ (prettyChars (level + 1) first ++
          (prettyItems level others ++ rest))) =
      (printedItems? (first :: others)).map (·, rest) := by
  obtain ⟨c, tail, same, begins⟩ := exists_begins (level + 1) first whole
  rw [same, List.cons_append] at one ⊢
  rw [readItems_line _ _ _ begins (.inl rfl), one, printedItems?]
  cases read : printedTree? first with
  | none => simp
  | some tree => simp [more, Function.comp_def]

/-- Printed members are read one after the other, if the value of the first of them is read and
those after it are. -/
theorem readMembers_pretty {bound depth loop level : Nat} (key : String) {value : Json}
    {others : List (String × Json)} {rest : List Char}
    (one : readValue bound depth
      (prettyChars (level + 1) value ++ (prettyMembers level others ++ rest)) =
        (printedTree? value).map (·, prettyMembers level others ++ rest))
    (more : readTail (readMember (readValue bound depth)) '}' loop
        (prettyMembers level others ++ rest) =
      (printedMembers? others).map (·, rest)) :
    readItems (readMember (readValue bound depth)) '}' (loop + 1)
        (newLine (level + 1) ++ (quotedChars key.toList ++ ':' :: ' ' ::
          (prettyChars (level + 1) value ++ (prettyMembers level others ++ rest)))) =
      (printedMembers? ((key, value) :: others)).map (·, rest) := by
  have member := readMember_line bound depth key.toList
    (prettyChars (level + 1) value ++ (prettyMembers level others ++ rest))
  rw [quotedChars, List.cons_append] at member ⊢
  rw [readItems_line _ _ _ (by decide) (.inr rfl), member, one, printedMembers?]
  by_cases legible : Legible key.toList
  · cases read : printedTree? value with
    | none => simp [legible]
    | some tree => simp [legible, more, Function.comp_def]
  · simp [legible]

mutual

/-- A printed value is read as its tree, whatever follows it. -/
theorem readValue_pretty (bound : Nat) : ∀ (value : Json) (level depth : Nat) (rest : List Char),
    Whole value → EndsValue rest → (prettyChars level value).length ≤ bound →
    (prettyChars level value).length ≤ depth →
    readValue bound depth (prettyChars level value ++ rest) = (printedTree? value).map (·, rest)
  | .null, level, depth, rest, _, _, _, _ => by
      rw [prettyChars, printedTree?]
      unfold readValue
      rw [List.cons_append, skip_cons _ (by decide) (by decide)]
      simp
  | .bool true, level, depth, rest, _, _, _, _ => by
      rw [prettyChars, printedTree?]
      unfold readValue
      rw [List.cons_append, skip_cons _ (by decide) (by decide)]
      simp
  | .bool false, level, depth, rest, _, _, _, _ => by
      rw [prettyChars, printedTree?]
      unfold readValue
      rw [List.cons_append, skip_cons _ (by decide) (by decide)]
      simp
  | .num number, level, depth, rest, whole, ends, _, _ => by
      rw [prettyChars]
      exact readValue_number bound depth whole ends
  | .str value, level, depth, rest, _, _, _, _ => by
      rw [prettyChars, printedTree?, quotedChars]
      unfold readValue
      rw [List.cons_append, skip_cons _ (by decide) (by decide)]
      simp only [List.append_assoc, List.singleton_append, readQuoted_text]
      by_cases legible : Legible value.toList <;> simp [legible]
  | .arr [], level, depth, rest, _, _, inBound, inDepth => by
      rw [prettyChars] at inBound inDepth ⊢
      obtain ⟨bound, rfl⟩ : ∃ smaller, bound = smaller + 1 := ⟨bound - 1, by simp at inBound; omega⟩
      obtain ⟨depth, rfl⟩ : ∃ smaller, depth = smaller + 1 := ⟨depth - 1, by simp at inDepth; omega⟩
      rw [List.cons_append, readValue_array, readItems, List.cons_append,
        skip_cons _ (by decide) (by decide)]
      simp [printedTree?, printedItems?]
  | .arr (first :: others), level, depth, rest, whole, ends, inBound, inDepth => by
      simp only [prettyChars, List.length_cons, List.length_append] at inBound inDepth
      obtain ⟨bound, rfl⟩ : ∃ smaller, bound = smaller + 1 := ⟨bound - 1, by omega⟩
      obtain ⟨depth, rfl⟩ : ∃ smaller, depth = smaller + 1 := ⟨depth - 1, by omega⟩
      have one := readValue_pretty (bound + 1) first (level + 1) depth
        (prettyItems level others ++ rest) whole.1 (endsValue_items level others rest)
        (by omega) (by omega)
      have more := readTail_items (bound + 1) others level depth bound rest whole.2
        (by omega) (by omega) (by omega)
      have items := readItems_pretty whole.1 one more
      simp only [prettyChars, List.cons_append, List.append_assoc]
      rw [readValue_array, items, printedTree?]
      cases printedItems? (first :: others) <;> rfl
  | .obj ⟨[]⟩, level, depth, rest, _, _, inBound, inDepth => by
      rw [prettyChars] at inBound inDepth ⊢
      obtain ⟨bound, rfl⟩ : ∃ smaller, bound = smaller + 1 := ⟨bound - 1, by simp at inBound; omega⟩
      obtain ⟨depth, rfl⟩ : ∃ smaller, depth = smaller + 1 := ⟨depth - 1, by simp at inDepth; omega⟩
      rw [List.cons_append, readValue_object, readItems, List.cons_append,
        skip_cons _ (by decide) (by decide)]
      simp [printedTree?, printedMembers?]
  | .obj ⟨(key, value) :: others⟩, level, depth, rest, whole, ends, inBound, inDepth => by
      simp only [prettyChars, List.length_cons, List.length_append] at inBound inDepth
      obtain ⟨bound, rfl⟩ : ∃ smaller, bound = smaller + 1 := ⟨bound - 1, by omega⟩
      obtain ⟨depth, rfl⟩ : ∃ smaller, depth = smaller + 1 := ⟨depth - 1, by omega⟩
      have one := readValue_pretty (bound + 1) value (level + 1) depth
        (prettyMembers level others ++ rest) whole.1 (endsValue_members level others rest)
        (by omega) (by omega)
      have more := readTail_members (bound + 1) others level depth bound rest whole.2
        (by omega) (by omega) (by omega)
      have members := readMembers_pretty key one more
      simp only [prettyChars, List.cons_append, List.append_assoc]
      rw [readValue_object, members, printedTree?]
      cases printedMembers? ((key, value) :: others) <;> rfl

/-- The items after the first one are read, with what closes them. -/
theorem readTail_items (bound : Nat) : ∀ (items : List Json) (level depth loop : Nat)
    (rest : List Char), WholeItems items → (prettyItems level items).length ≤ bound →
    (prettyItems level items).length ≤ depth → (prettyItems level items).length ≤ loop →
    readTail (readValue bound depth) ']' loop (prettyItems level items ++ rest) =
      (printedItems? items).map (·, rest)
  | [], level, depth, loop, rest, _, _, _, _ => by
      rw [prettyItems, readTail, List.append_assoc, skip_newLine, List.singleton_append,
        skip_cons _ (by decide) (by decide)]
      simp [printedItems?]
  | value :: others, level, depth, loop, rest, whole, inBound, inDepth, inLoop => by
      simp only [prettyItems, List.length_cons, List.length_append] at inBound inDepth inLoop
      obtain ⟨loop, rfl⟩ : ∃ smaller, loop = smaller + 1 := ⟨loop - 1, by omega⟩
      have one := readValue_pretty bound value (level + 1) depth
        (prettyItems level others ++ rest) whole.1 (endsValue_items level others rest)
        (by omega) (by omega)
      have more := readTail_items bound others level depth loop rest whole.2
        (by omega) (by omega) (by omega)
      have items := readItems_pretty whole.1 one more
      simp only [prettyItems, List.cons_append, List.append_assoc]
      rw [readTail, skip_cons _ (by decide) (by decide)]
      exact items

/-- The members after the first one are read, with what closes them. -/
theorem readTail_members (bound : Nat) : ∀ (members : List (String × Json))
    (level depth loop : Nat) (rest : List Char), WholeMembers members →
    (prettyMembers level members).length ≤ bound →
    (prettyMembers level members).length ≤ depth →
    (prettyMembers level members).length ≤ loop →
    readTail (readMember (readValue bound depth)) '}' loop (prettyMembers level members ++ rest) =
      (printedMembers? members).map (·, rest)
  | [], level, depth, loop, rest, _, _, _, _ => by
      rw [prettyMembers, readTail, List.append_assoc, skip_newLine, List.singleton_append,
        skip_cons _ (by decide) (by decide)]
      simp [printedMembers?]
  | (key, value) :: others, level, depth, loop, rest, whole, inBound, inDepth, inLoop => by
      simp only [prettyMembers, List.length_cons, List.length_append] at inBound inDepth inLoop
      obtain ⟨loop, rfl⟩ : ∃ smaller, loop = smaller + 1 := ⟨loop - 1, by omega⟩
      have one := readValue_pretty bound value (level + 1) depth
        (prettyMembers level others ++ rest) whole.1 (endsValue_members level others rest)
        (by omega) (by omega)
      have more := readTail_members bound others level depth loop rest whole.2
        (by omega) (by omega) (by omega)
      have members := readMembers_pretty key one more
      simp only [prettyMembers, List.cons_append, List.append_assoc]
      rw [readTail, skip_cons _ (by decide) (by decide)]
      exact members

end

/-- A text that is nothing but a printed value is read as its tree. -/
theorem parse?_pretty (value : Json) (whole : Whole value) :
    parse? (prettyChars 0 value) = printedTree? value := by
  have read := readValue_pretty ((prettyChars 0 value).length + 1) value 0
    (prettyChars 0 value).length [] whole (by simp [EndsValue]) (Nat.le_succ _) (Nat.le_refl _)
  rw [List.append_nil] at read
  have nothingLeft : skip [] = some [] := rfl
  rw [parse?, read]
  cases printedTree? value with
  | none => rfl
  | some tree => simp [nothingLeft]

end Dialogue.Json5

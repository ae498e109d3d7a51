import Dialogue.Proofs.Json.Scanning
/-!
# Reading JSON text

A text is read as a value if and only if the grammar says that it spells this value.  The loop over
items has a bound, for which the length of the text is enough; so the bound is no part of the
grammar.
-/

namespace Dialogue.Json

variable {α : Type}

/-! ### Between values -/

/-- What may stand behind a value: blanks, a comma, a closing mark, or nothing. -/
def Delimited (rest : List Char) : Prop :=
  ∀ c ∈ rest.head?, isBlank c = true ∨ c = ',' ∨ c = ']' ∨ c = '}'

theorem delimited_nil : Delimited [] := by
  simp [Delimited]

theorem delimited_cons {mark : Char} (rest : List Char)
    (marks : mark = ',' ∨ mark = ']' ∨ mark = '}') : Delimited (mark :: rest) := by
  rintro c ⟨⟩
  exact .inr marks

theorem Blanks.delimited_append {before rest : List Char} (blank : Blanks before)
    (ends : Delimited rest) : Delimited (before ++ rest) := by
  cases before with
  | nil => exact ends
  | cons first others =>
      rintro c ⟨⟩
      exact .inl (blank first List.mem_cons_self)

theorem isBlank_iff {c : Char} : isBlank c = true ↔ c = ' ' ∨ c = '\t' ∨ c = '\n' ∨ c = '\r' := by
  simp [isBlank, or_assoc]

theorem Delimited.stops {rest : List Char} (ends : Delimited rest) : Stops rest := by
  intro c head
  rcases ends c head with blank | rfl | rfl | rfl
  · rcases isBlank_iff.mp blank with rfl | rfl | rfl | rfl <;> decide
  all_goals decide

/-- A value or a member may begin with this character: it is no blank and closes nothing. -/
def Begins (c : Char) : Prop :=
  isBlank c = false ∧ c ≠ ']' ∧ c ≠ '}'

instance (c : Char) : Decidable (Begins c) :=
  inferInstanceAs (Decidable (_ ∧ _))

theorem begins_of_isDigit {c : Char} (digit : c.isDigit = true) : Begins c := by
  refine ⟨Bool.not_eq_true _ ▸ fun blank => ?_, ?_, ?_⟩
  · rcases isBlank_iff.mp blank with rfl | rfl | rfl | rfl <;> cases digit
  all_goals
    rintro rfl
    cases digit

/-- No spelling begins with a blank or a closing mark. -/
def Headed (grammar : Grammar α) : Prop :=
  ∀ spelled meaning, grammar spelled meaning → ∃ c tail, spelled = c :: tail ∧ Begins c

/-! ### Readers and grammars -/

/-- A reader that skips blanks takes exactly the spellings of a grammar, up to some length. -/
structure Recognises (bound : Nat) (reader : Reader α) (grammar : Grammar α) : Prop where
  headed : Headed grammar
  sound : ∀ {text rest : List Char} {meaning : α}, reader text = some (meaning, rest) →
    ∃ before spelled, Blanks before ∧ grammar spelled meaning ∧ text = before ++ (spelled ++ rest)
  complete : ∀ {before spelled rest : List Char} {meaning : α}, Blanks before →
    grammar spelled meaning → Delimited rest → spelled.length ≤ bound →
    reader (before ++ (spelled ++ rest)) = some (meaning, rest)

/-! ### Items -/

section
variable {grammar : Grammar α} {listed : List Char} {items : List α}

/-- There is one comma less than there are items. -/
theorem Listed.length_le (spells : Listed grammar listed items) :
    items.length ≤ listed.length + 1 := by
  induction spells with
  | one => exact Nat.succ_le_succ (Nat.zero_le _)
  | more _ _ inductionHypothesis =>
      simp only [List.length_cons, List.length_append]
      omega

theorem padded_of_spells {text : List Char} {meaning : α} (spells : grammar text meaning) :
    Padded grammar text meaning :=
  ⟨[], text, [], blanks_nil, spells, blanks_nil, by simp⟩

theorem Padded.of_blanks {before text : List Char} {meaning : α} (blank : Blanks before)
    (padded : Padded grammar text meaning) : Padded grammar (before ++ text) meaning := by
  obtain ⟨front, inner, after, blankFront, spells, blankAfter, rfl⟩ := padded
  exact ⟨before ++ front, inner, after, blank.append blankFront, spells, blankAfter, by simp⟩

theorem Listed.of_blanks {before : List Char} (blank : Blanks before)
    (spells : Listed grammar listed items) : Listed grammar (before ++ listed) items := by
  cases spells with
  | one only => exact .one (only.of_blanks blank)
  | more first later =>
      rw [← List.append_assoc]
      exact .more (first.of_blanks blank) later

/-- The blanks in front of the first item can be told from what follows them. -/
theorem Listed.exists_begins (headed : Headed grammar) (spells : Listed grammar listed items) :
    ∃ before c tail, Blanks before ∧ Begins c ∧ Listed grammar (c :: tail) items ∧
      listed = before ++ c :: tail := by
  cases spells with
  | one only =>
      obtain ⟨before, inner, after, blank, spelled, blankAfter, rfl⟩ := only
      obtain ⟨c, tail, rfl, first⟩ := headed _ _ spelled
      exact ⟨before, c, tail ++ after, blank, first,
        .one ⟨[], c :: tail, after, blanks_nil, spelled, blankAfter, rfl⟩, rfl⟩
  | @more _ others _ _ only later =>
      obtain ⟨before, inner, after, blank, spelled, blankAfter, rfl⟩ := only
      obtain ⟨c, tail, rfl, first⟩ := headed _ _ spelled
      exact ⟨before, c, tail ++ after ++ ',' :: others, blank, first,
        .more ⟨[], c :: tail, after, blanks_nil, spelled, blankAfter, rfl⟩ later, by simp⟩

end

namespace Recognises

variable {bound loop : Nat} {reader : Reader α} {grammar : Grammar α} {opening closing : Char}
  {text listed rest : List Char} {items : List α}

/-- Items that are read are spelled one after the other. -/
theorem listed_of_readSequence (item : Recognises bound reader grammar)
    (read : readSequence reader closing loop text = some (items, rest)) :
    ∃ listed, Listed grammar listed items ∧ text = listed ++ closing :: rest := by
  induction loop generalizing text items with
  | zero => cases read
  | succ loop inductionHypothesis =>
      rw [readSequence] at read
      obtain ⟨⟨first, behind⟩, found, goesOn⟩ := Option.bind_eq_some_iff.mp read
      obtain ⟨before, spelled, blank, spells, rfl⟩ := item.sound found
      obtain ⟨after, blankAfter, whole⟩ := exists_blanks behind
      dsimp only at goesOn
      split at goesOn
      · cases goesOn
      · next mark later skipped =>
          rw [skipped] at whole
          subst whole
          have padded : Padded grammar (before ++ (spelled ++ after)) first :=
            ⟨before, spelled, after, blank, spells, blankAfter, rfl⟩
          split at goesOn
          · next comma =>
              subst comma
              obtain ⟨⟨others, _⟩, more, same⟩ := Option.map_eq_some_iff.mp goesOn
              obtain ⟨rfl, rfl⟩ := Prod.mk.inj same
              obtain ⟨listed, spellsOthers, rfl⟩ := inductionHypothesis more
              exact ⟨_, .more padded spellsOthers, by simp⟩
          · split at goesOn
            · next closes =>
                subst closes
                obtain ⟨rfl, rfl⟩ := Prod.mk.inj (Option.some.inj goesOn)
                exact ⟨_, .one padded, by simp⟩
            · cases goesOn

/-- Items that are spelled one after the other are read. -/
theorem readSequence_listed (item : Recognises bound reader grammar)
    (closes : closing = ']' ∨ closing = '}') (spells : Listed grammar listed items)
    (inBound : listed.length ≤ bound) (inLoop : items.length ≤ loop) :
    readSequence reader closing loop (listed ++ closing :: rest) = some (items, rest) := by
  have notBlank : isBlank closing = false := by rcases closes with rfl | rfl <;> rfl
  have notComma : closing ≠ ',' := by rcases closes with rfl | rfl <;> decide
  induction spells generalizing loop with
  | one only =>
      obtain ⟨before, inner, after, blank, spelled, blankAfter, rfl⟩ := only
      obtain ⟨loop, rfl⟩ := Nat.exists_eq_add_of_le' inLoop
      simp only [List.length_append] at inBound
      have read := item.complete blank spelled
        (blankAfter.delimited_append (delimited_cons rest (.inr closes))) (by omega)
      simp only [List.append_assoc]
      rw [List.length_singleton, readSequence, read]
      simp [skipBlanks_mark blankAfter closing _ notBlank, notComma]
  | @more _ others _ items only later inductionHypothesis =>
      obtain ⟨before, inner, after, blank, spelled, blankAfter, rfl⟩ := only
      obtain ⟨loop, rfl⟩ := Nat.exists_eq_add_of_le' (Nat.lt_of_lt_of_le (Nat.succ_pos _) inLoop)
      simp only [List.length_append, List.length_cons] at inBound inLoop
      have read := item.complete blank spelled
        (blankAfter.delimited_append (delimited_cons (others ++ closing :: rest) (.inl rfl)))
        (by omega)
      have more : readSequence reader closing loop (others ++ closing :: rest) =
          some (items, rest) := inductionHypothesis (by omega) (by omega)
      simp only [List.append_assoc, List.cons_append]
      rw [readSequence, read]
      simp [skipBlanks_mark blankAfter ',' _ rfl, more]

/-- What is read between two marks is spelled between them. -/
theorem enclosed_of_readEnclosed (item : Recognises bound reader grammar)
    (read : readEnclosed reader closing loop text = some (items, rest)) :
    ∃ inner, Enclosed grammar opening closing (opening :: inner) items ∧ text = inner ++ rest := by
  rw [readEnclosed] at read
  obtain ⟨before, blank, whole⟩ := exists_blanks text
  split at read
  · cases read
  · next c later skipped =>
      rw [skipped] at whole
      split at read
      · next closes =>
          subst closes
          obtain ⟨rfl, rfl⟩ := Prod.mk.inj (Option.some.inj read)
          exact ⟨before ++ [c], .empty blank, by simp [whole]⟩
      · obtain ⟨listed, spells, same⟩ := item.listed_of_readSequence read
        exact ⟨before ++ listed ++ [closing], .items (spells.of_blanks blank),
          by simp [whole, same]⟩

/-- What is spelled between two marks is read behind the first of them. -/
theorem readEnclosed_enclosed (item : Recognises bound reader grammar)
    (closes : closing = ']' ∨ closing = '}')
    (spells : Enclosed grammar opening closing text items) (inBound : text.length ≤ bound)
    (rest : List Char) :
    ∃ inner, text = opening :: inner ∧
      readEnclosed reader closing bound (inner ++ rest) = some (items, rest) := by
  cases spells with
  | @empty blanks blank =>
      have notBlank : isBlank closing = false := by rcases closes with rfl | rfl <;> rfl
      refine ⟨blanks ++ [closing], rfl, ?_⟩
      rw [List.append_assoc, List.singleton_append, readEnclosed,
        skipBlanks_mark blank closing _ notBlank]
      simp
  | @items listed _ spells =>
      refine ⟨listed ++ [closing], rfl, ?_⟩
      have few := spells.length_le
      obtain ⟨before, c, tail, blank, first, spellsItems, rfl⟩ := spells.exists_begins item.headed
      have other : c ≠ closing := by
        rcases closes with rfl | rfl
        · exact first.2.1
        · exact first.2.2
      simp only [List.length_cons, List.length_append, List.length_nil] at inBound few
      have read : readSequence reader closing bound (c :: tail ++ closing :: rest) =
          some (items, rest) :=
        item.readSequence_listed closes spellsItems (by simp only [List.length_cons]; omega)
          (by omega)
      simp only [List.append_assoc, List.cons_append, List.nil_append] at read ⊢
      rw [readEnclosed, skipBlanks_mark blank c _ first.1]
      simp [other, read]

end Recognises

/-! ### Members -/

/-- Members are recognised where values are. -/
theorem recognises_readMember {bound : Nat} {reader : Reader Json} {grammar : Grammar Json}
    (value : Recognises bound reader grammar) :
    Recognises bound (readMember reader) (SpellsMember grammar) where
  headed := by
    rintro _ _ ⟨⟨inner, _, rfl⟩, _, _, _⟩
    exact ⟨'"', _, rfl, by decide⟩
  sound := by
    intro text rest member read
    rw [readMember] at read
    obtain ⟨before, blank, whole⟩ := exists_blanks text
    split at read
    · next quoted skipped =>
        rw [skipped] at whole
        obtain ⟨⟨chars, behind⟩, found, goesOn⟩ := Option.bind_eq_some_iff.mp read
        obtain ⟨inner, spellsKey, rfl⟩ := spellsText_of_readQuoted found
        obtain ⟨blanks, blankBefore, same⟩ := exists_blanks behind
        dsimp only at goesOn
        split at goesOn
        · next later colon =>
            rw [colon] at same
            obtain ⟨⟨meaning, _⟩, valueFound, result⟩ := Option.map_eq_some_iff.mp goesOn
            obtain ⟨rfl, rfl⟩ := Prod.mk.inj result
            obtain ⟨after, spelled, blankAfter, spells, rfl⟩ := value.sound valueFound
            exact ⟨before, _, blank, .intro ⟨inner, spellsKey, rfl⟩ blankBefore blankAfter spells,
              by simp [whole, same]⟩
        · cases goesOn
    · cases read
  complete := by
    rintro before _ rest _ blank ⟨⟨inner, spellsKey, rfl⟩, blankBefore, blankAfter, spells⟩ ends
      inBound
    simp only [List.length_cons, List.length_append] at inBound
    have read := value.complete blankAfter spells ends (by omega)
    simp only [List.append_assoc, List.cons_append, List.nil_append]
    rw [readMember, skipBlanks_mark blank '"' _ rfl]
    simp [spellsKey.readQuoted, skipBlanks_mark blankBefore ':' _ rfl, read]

/-! ### Values -/

/-- A numeral begins with a minus or a digit. -/
theorem SpellsNumeral.exists_head {spelled : List Char} {numeral : Numeral}
    (spells : SpellsNumeral spelled numeral) :
    ∃ c tail, spelled = c :: tail ∧ (c = '-' ∨ c.isDigit = true) := by
  obtain @⟨_, _, fraction, exponent, _, _, _, signed, whole, _, _⟩ := spells
  cases signed with
  | minus => exact ⟨'-', _, rfl, .inl rfl⟩
  | none =>
      obtain ⟨c, tail, rfl, digit⟩ := whole.1.exists_digit
      exact ⟨c, tail ++ (fraction ++ exponent), rfl, .inr digit⟩

theorem headed_spellsScalar : Headed SpellsScalar := by
  rintro _ _ (_ | _ | _ | ⟨spelled, _⟩ | ⟨inner, _, rfl⟩)
  · exact ⟨'n', _, rfl, by decide⟩
  · exact ⟨'t', _, rfl, by decide⟩
  · exact ⟨'f', _, rfl, by decide⟩
  · obtain ⟨c, tail, rfl, rfl | digit⟩ := spelled.exists_head
    · exact ⟨'-', tail, rfl, by decide⟩
    · exact ⟨c, tail, rfl, begins_of_isDigit digit⟩
  · exact ⟨'"', _, rfl, by decide⟩

theorem headed_spellsCompound (grammar : Grammar Json) : Headed (SpellsCompound grammar) := by
  rintro _ _ ((_ | _) | (_ | _))
  · exact ⟨'[', _, rfl, by decide⟩
  · exact ⟨'[', _, rfl, by decide⟩
  · exact ⟨'{', _, rfl, by decide⟩
  · exact ⟨'{', _, rfl, by decide⟩

theorem SpellsScalar.spells {text : List Char} {value : Json} (scalar : SpellsScalar text value)
    (depth : Nat) : Spells depth text value := by
  cases depth with
  | zero => exact scalar
  | succ depth => exact .inl scalar

theorem headed_spells (depth : Nat) : Headed (Spells depth) := by
  cases depth with
  | zero => exact headed_spellsScalar
  | succ depth =>
      intro spelled value spells
      exact spells.elim (headed_spellsScalar spelled value)
        (headed_spellsCompound (Spells depth) spelled value)

/-- Blanks in front of a value are skipped. -/
theorem readValue_append (bound depth : Nat) {before : List Char} (blank : Blanks before)
    (text : List Char) : readValue bound depth (before ++ text) = readValue bound depth text := by
  unfold readValue
  rw [skipBlanks_append blank]

/-- A value with no value inside is read at any depth. -/
theorem SpellsScalar.readValue {spelled rest : List Char} {value : Json}
    (scalar : SpellsScalar spelled value) (ends : Delimited rest) (bound depth : Nat) :
    readValue bound depth (spelled ++ rest) = some (value, rest) := by
  unfold Json.readValue
  cases scalar with
  | null => rw [List.cons_append, skipBlanks_cons _ rfl]; rfl
  | true => rw [List.cons_append, skipBlanks_cons _ rfl]; rfl
  | false => rw [List.cons_append, skipBlanks_cons _ rfl]; rfl
  | text quoted =>
      obtain ⟨inner, spells, rfl⟩ := quoted
      rw [List.cons_append, skipBlanks_cons _ rfl, List.append_assoc, List.singleton_append]
      simp [spells.readQuoted]
  | @number _ _ number numeral names =>
      have read : readNumber (spelled ++ rest) = some (.num number, rest) := by
        rw [readNumber, numeral.readNumeral ends.stops]
        simp [names]
      obtain ⟨c, tail, rfl, head⟩ := numeral.exists_head
      have begins : Begins c := by
        rcases head with rfl | digit
        · decide
        · exact begins_of_isDigit digit
      rw [List.cons_append] at read ⊢
      rw [skipBlanks_cons _ begins.1]
      split
      -- No numeral begins like one of the other values.
      iterate 6
        · next same =>
            obtain ⟨rfl, _⟩ := List.cons.inj same
            rcases head with other | digit
            · cases other
            · cases digit
      · exact read

/-- Values are recognised if the values inside them are. -/
theorem recognises_of_inner {bound depth : Nat}
    (inner : ∀ smaller, depth = smaller + 1 →
      Recognises bound (readValue bound smaller) (Spells smaller)) :
    Recognises bound (readValue bound depth) (Spells depth) where
  headed := headed_spells depth
  sound := by
    intro text rest value read
    obtain ⟨before, blank, whole⟩ := exists_blanks text
    have behindBlanks {spelled : List Char} (spells : Spells depth spelled value)
        (same : skipBlanks text = spelled ++ rest) :
        ∃ before spelled, Blanks before ∧ Spells depth spelled value ∧
          text = before ++ (spelled ++ rest) :=
      ⟨before, spelled, blank, spells, same ▸ whole⟩
    unfold readValue at read
    split at read
    · next skipped =>
        obtain ⟨rfl, rfl⟩ := Prod.mk.inj (Option.some.inj read)
        exact behindBlanks (SpellsScalar.null.spells depth) skipped
    · next skipped =>
        obtain ⟨rfl, rfl⟩ := Prod.mk.inj (Option.some.inj read)
        exact behindBlanks (SpellsScalar.true.spells depth) skipped
    · next skipped =>
        obtain ⟨rfl, rfl⟩ := Prod.mk.inj (Option.some.inj read)
        exact behindBlanks (SpellsScalar.false.spells depth) skipped
    · next skipped =>
        obtain ⟨⟨chars, _⟩, found, same⟩ := Option.map_eq_some_iff.mp read
        obtain ⟨rfl, rfl⟩ := Prod.mk.inj same
        obtain ⟨quoted, spells, rfl⟩ := spellsText_of_readQuoted found
        exact behindBlanks ((SpellsScalar.text ⟨quoted, spells, rfl⟩).spells depth)
          (by simp [skipped])
    · next skipped =>
        cases depth with
        | zero => cases read
        | succ depth =>
            obtain ⟨⟨items, _⟩, found, same⟩ := Option.map_eq_some_iff.mp read
            obtain ⟨rfl, rfl⟩ := Prod.mk.inj same
            obtain ⟨spelled, enclosed, rfl⟩ := (inner depth rfl).enclosed_of_readEnclosed found
            exact behindBlanks (.inr (.array enclosed)) skipped
    · next skipped =>
        cases depth with
        | zero => cases read
        | succ depth =>
            obtain ⟨⟨members, _⟩, found, same⟩ := Option.map_eq_some_iff.mp read
            obtain ⟨rfl, rfl⟩ := Prod.mk.inj same
            obtain ⟨spelled, enclosed, rfl⟩ :=
              (recognises_readMember (inner depth rfl)).enclosed_of_readEnclosed found
            exact behindBlanks (.inr (.object enclosed)) skipped
    · obtain ⟨⟨numeral, _⟩, found, goesOn⟩ := Option.bind_eq_some_iff.mp read
      obtain ⟨number, names, same⟩ := Option.map_eq_some_iff.mp goesOn
      obtain ⟨rfl, rfl⟩ := Prod.mk.inj same
      obtain ⟨spelled, spells, split⟩ := spellsNumeral_of_readNumeral found
      exact behindBlanks ((SpellsScalar.number spells names).spells depth) split
  complete := by
    intro before spelled rest value blank spells ends inBound
    rw [readValue_append bound depth blank]
    cases depth with
    | zero => exact spells.readValue ends bound 0
    | succ depth =>
        rcases spells with scalar | ⟨enclosed⟩ | ⟨enclosed⟩
        · exact scalar.readValue ends bound (depth + 1)
        · obtain ⟨tail, rfl, read⟩ :=
            (inner depth rfl).readEnclosed_enclosed (.inl rfl) enclosed inBound rest
          unfold readValue
          rw [List.cons_append, skipBlanks_cons _ rfl]
          simp [read]
        · obtain ⟨tail, rfl, read⟩ :=
            (recognises_readMember (inner depth rfl)).readEnclosed_enclosed (.inr rfl) enclosed
              inBound rest
          unfold readValue
          rw [List.cons_append, skipBlanks_cons _ rfl]
          simp [read]

theorem recognises_readValue (bound depth : Nat) :
    Recognises bound (readValue bound depth) (Spells depth) := by
  induction depth with
  | zero =>
      exact recognises_of_inner fun smaller same => absurd same (Nat.zero_ne_add_one smaller)
  | succ depth inductionHypothesis =>
      exact recognises_of_inner fun smaller same => Nat.succ.inj same ▸ inductionHypothesis

/-! ### Whole texts -/

/-- A text is read as a value if and only if the value is written so. -/
theorem ofCharsWithin?_eq_some_iff {depth : Nat} {text : List Char} {value : Json} :
    ofCharsWithin? depth text = some value ↔ Written depth text value := by
  rw [ofCharsWithin?]
  constructor
  · intro read
    split at read
    · next found =>
        split at read
        · next nothing =>
            obtain rfl := Option.some.inj read
            obtain ⟨before, spelled, blank, spells, same⟩ :=
              (recognises_readValue text.length depth).sound found
            have blankAfter := skipBlanks_eq_nil_iff.mp (List.isEmpty_iff.mp nothing)
            exact ⟨before, spelled, _, blank, spells, blankAfter, same⟩
        · cases read
    · cases read
  · rintro ⟨before, spelled, after, blank, spells, blankAfter, rfl⟩
    have ends : Delimited after := by
      have delimited := blankAfter.delimited_append delimited_nil
      rwa [List.append_nil] at delimited
    rw [(recognises_readValue _ depth).complete blank spells ends
      (by simp only [List.length_append]; omega)]
    simp [skipBlanks_eq_nil_iff.mpr blankAfter]

/-- A text that is read as nothing is the text of no value. -/
theorem ofCharsWithin?_eq_none_iff {depth : Nat} {text : List Char} :
    ofCharsWithin? depth text = none ↔ ∀ value, ¬Written depth text value := by
  simp only [Option.eq_none_iff_forall_ne_some, ne_eq, ofCharsWithin?_eq_some_iff]

end Dialogue.Json

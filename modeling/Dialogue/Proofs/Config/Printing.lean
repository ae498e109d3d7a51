import Dialogue.Proofs.Config.Reference
import Dialogue.Proofs.Json5.Reading
/-!
# Substitution in printed values

Substitution leaves a printed value as it is if none of its texts opens a reference.  If one does,
the reference begins between quotes, whatever it reaches over before it is closed.  So a variable
that holds a line break makes the text unreadable, because no line may end between quotes.
-/

namespace Dialogue.Json5

open Dialogue.Json (prettyChars prettyItems prettyMembers newLine quotedChars)

/-! ### Texts between quotes -/

/-- Only a dollar sign is printed with a dollar sign. -/
theorem not_mem_escaped {c : Char} (other : c ≠ '$') : '$' ∉ Json.escaped c := by
  have short : ∀ c ∈ ['"', '\\', '\n', '\r', '\t', '\x08', '\x0c'], '$' ∉ Json.escaped c := by
    simp [Json.escaped]
  have digit : ∀ n < 16, Json.hexDigit n ≠ '$' := by decide
  by_cases listed : c ∈ ['"', '\\', '\n', '\r', '\t', '\x08', '\x0c']
  · exact short c listed
  · simp only [List.mem_cons, List.not_mem_nil, or_false, not_or] at listed
    simp only [Json.escaped, listed, if_false]
    split
    · have high := digit (c.toNat / 16) (by omega)
      have low := digit (c.toNat % 16) (by omega)
      simp [high.symm, low.symm]
    · simpa using other.symm

/-- A printed text begins with a brace exactly if the text does. -/
theorem head?_escapedText {brace : Char} (isBrace : brace = '{' ∨ brace = '}')
    (text rest : List Char) :
    (text.flatMap Json.escaped ++ '"' :: rest).head? = some brace ↔ text.head? = some brace := by
  have notQuote : '"' ≠ brace := by rcases isBrace with rfl | rfl <;> decide
  have notBackslash : '\\' ≠ brace := by rcases isBrace with rfl | rfl <;> decide
  cases text with
  | nil => simpa using notQuote
  | cons c text =>
      rw [List.flatMap_cons]
      by_cases same : c = brace
      · subst same
        rcases isBrace with rfl | rfl <;> simp [Json.escaped]
      · have printed := printed_escaped c
        generalize Json.escaped c = chars, printedPiece c = piece at printed ⊢
        cases printed <;> simp [same, notBackslash]

/-- Substitution keeps a printed character with which no reference is opened. -/
theorem substitute_escaped (environment : Environment) {c : Char} {text rest : List Char}
    (plain : ¬(c = '$' ∧ ∃ after, text = '{' :: after ∧ after.head? ≠ some '}')) :
    substitute environment (Json.escaped c ++ (text.flatMap Json.escaped ++ '"' :: rest)) =
      Json.escaped c ++ substitute environment (text.flatMap Json.escaped ++ '"' :: rest) := by
  by_cases dollar : c = '$'
  · subst dollar
    have dollarSign : Json.escaped '$' = ['$'] := rfl
    rw [dollarSign, List.singleton_append, List.singleton_append]
    refine substitute_plain environment fun _ after same => ?_
    have first := (head?_escapedText (.inl rfl) text rest).mp (by rw [same]; rfl)
    obtain ⟨inner, rfl⟩ := List.head?_eq_some_iff.mp first
    have closed : inner.head? = some '}' :=
      Decidable.byContradiction fun opens => plain ⟨rfl, inner, rfl, opens⟩
    obtain rfl := (List.cons.inj same).2
    exact reference?_eq_none ((head?_escapedText (.inr rfl) inner rest).mpr closed)
  · exact Settled.of_not_mem (not_mem_escaped dollar) environment _

/-- Substitution leaves a printed text that opens no reference as it is. -/
theorem settled_quotedChars {text : List Char} (closed : ¬OpensReference text) :
    Settled (quotedChars text) := by
  refine .cons (by decide) fun environment rest => ?_
  rw [List.append_assoc, List.append_assoc, List.singleton_append, List.singleton_append]
  induction text with
  | nil => exact substitute_cons environment (by decide)
  | cons c text inductionHypothesis =>
      rw [opensReference_cons, not_or] at closed
      rw [List.flatMap_cons, List.append_assoc, substitute_escaped environment closed.1,
        inductionHypothesis closed.2, List.append_assoc]

/-- With a line break in place of a reference, a printed text cannot be read any more. -/
theorem readQuoted_lineBreaking {text rest : List Char} (opens : OpensReference text)
    (closes : '}' ∈ rest) :
    readQuoted '"' (substitute lineBreaking (text.flatMap Json.escaped ++ '"' :: rest)) = none := by
  induction text with
  | nil => exact absurd opens not_opensReference_nil
  | cons c text inductionHypothesis =>
      rw [List.flatMap_cons, List.append_assoc]
      by_cases here : c = '$' ∧ ∃ after, text = '{' :: after ∧ after.head? ≠ some '}'
      · obtain ⟨rfl, after, rfl, notClosed⟩ := here
        have notFirst := mt (head?_escapedText (.inr rfl) after rest).mp notClosed
        obtain ⟨name, beyond, found⟩ := exists_reference notFirst
          (List.mem_append_right _ (List.mem_cons_of_mem _ closes))
        have dollarBrace : Json.escaped '$' ++ (('{' :: after).flatMap Json.escaped ++ '"' :: rest) =
            '$' :: '{' :: (after.flatMap Json.escaped ++ '"' :: rest) := rfl
        rw [dollarBrace, substitute_reference lineBreaking found]
        simp [lineBreaking, readQuoted, isLineEnd]
      · have later := (opensReference_cons.mp opens).resolve_left here
        rw [substitute_escaped lineBreaking here, readQuoted_escaped, inductionHypothesis later]
        split <;> rfl

/-! ### Values -/

/-- One of these texts opens a reference. -/
def AnyOpens (texts : List String) : Prop :=
  ∃ text ∈ texts, OpensReference text.toList

theorem anyOpens_append {first second : List String} :
    AnyOpens (first ++ second) ↔ AnyOpens first ∨ AnyOpens second := by
  simp [AnyOpens, or_and_right, exists_or]

theorem anyOpens_cons {text : String} {rest : List String} :
    AnyOpens (text :: rest) ↔ OpensReference text.toList ∨ AnyOpens rest := by
  simp [AnyOpens]

theorem settled_newLine (level : Nat) : Settled (newLine level) :=
  .of_not_mem (by simp [newLine])

theorem settled_numberChars {number : Number} (whole : Whole (.num number)) :
    Settled (Json.numberChars number) := by
  have digits : ∀ n, '$' ∉ decimalDigits n := fun n member => by
    cases isDigit_of_mem_decimalDigits member
  cases number with
  | unsigned value => exact .of_not_mem (digits _)
  | negative below => exact .cons (by decide) (.of_not_mem (digits _))
  | double value => cases whole

theorem settled_member (level : Nat) {key value : List Char} (closed : ¬OpensReference key)
    (settled : Settled value) : Settled (newLine level ++ quotedChars key ++ ':' :: ' ' :: value) :=
  ((settled_newLine level).append (settled_quotedChars closed)).append
    (.cons (by decide) (.cons (by decide) settled))

mutual

/-- Substitution leaves a printed value as it is if none of its texts opens a reference. -/
theorem settled_pretty : ∀ (value : Json) (level : Nat), Whole value → ¬AnyOpens (texts value) →
    Settled (prettyChars level value)
  | .null, _, _, _ => by
      rw [prettyChars]
      exact .of_not_mem (by decide)
  | .bool true, _, _, _ => by
      rw [prettyChars]
      exact .of_not_mem (by decide)
  | .bool false, _, _, _ => by
      rw [prettyChars]
      exact .of_not_mem (by decide)
  | .num number, _, whole, _ => by
      rw [prettyChars]
      exact settled_numberChars whole
  | .str text, _, _, closed => by
      rw [prettyChars]
      exact settled_quotedChars fun opens => closed ⟨text, List.mem_singleton_self text, opens⟩
  | .arr [], _, _, _ => by
      rw [prettyChars]
      exact .of_not_mem (by decide)
  | .arr (first :: others), level, whole, closed => by
      rw [texts, itemTexts, anyOpens_append, not_or] at closed
      have one := settled_pretty first (level + 1) whole.1 closed.1
      have more := settled_items others level whole.2 closed.2
      rw [prettyChars]
      exact .cons (by decide) (((settled_newLine _).append one).append more)
  | .obj ⟨[]⟩, _, _, _ => by
      rw [prettyChars]
      exact .of_not_mem (by decide)
  | .obj ⟨(key, value) :: others⟩, level, whole, closed => by
      rw [texts, memberTexts, anyOpens_cons, anyOpens_append, not_or, not_or] at closed
      have one := settled_pretty value (level + 1) whole.1 closed.2.1
      have more := settled_members others level whole.2 closed.2.2
      rw [prettyChars]
      exact .cons (by decide) ((settled_member (level + 1) closed.1 one).append more)

theorem settled_items : ∀ (items : List Json) (level : Nat), WholeItems items →
    ¬AnyOpens (itemTexts items) → Settled (prettyItems level items)
  | [], level, _, _ => by
      rw [prettyItems]
      exact (settled_newLine level).append (.of_not_mem (by decide))
  | value :: others, level, whole, closed => by
      rw [itemTexts, anyOpens_append, not_or] at closed
      have one := settled_pretty value (level + 1) whole.1 closed.1
      have more := settled_items others level whole.2 closed.2
      rw [prettyItems]
      exact .cons (by decide) (((settled_newLine _).append one).append more)

theorem settled_members : ∀ (members : List (String × Json)) (level : Nat), WholeMembers members →
    ¬AnyOpens (memberTexts members) → Settled (prettyMembers level members)
  | [], level, _, _ => by
      rw [prettyMembers]
      exact (settled_newLine level).append (.of_not_mem (by decide))
  | (key, value) :: others, level, whole, closed => by
      rw [memberTexts, anyOpens_cons, anyOpens_append, not_or, not_or] at closed
      have one := settled_pretty value (level + 1) whole.1 closed.2.1
      have more := settled_members others level whole.2 closed.2.2
      rw [prettyMembers]
      exact .cons (by decide) ((settled_member (level + 1) closed.1 one).append more)

end

/-! ### Line breaks for references -/

/-- A printed value begins like a value also after substitution. -/
theorem exists_begins_substitute (environment : Environment) (level : Nat) (value : Json)
    (whole : Whole value) (rest : List Char) :
    ∃ c tail, substitute environment (prettyChars level value ++ rest) = c :: tail ∧
      BeginsValue c := by
  obtain ⟨c, tail, same, begins⟩ := exists_begins level value whole
  refine ⟨c, substitute environment (tail ++ rest), ?_, begins⟩
  rw [same, List.cons_append, substitute_cons environment begins.2.2.1]

/-- What ends a value does so also after substitution. -/
theorem EndsValue.substitute {text : List Char} (ends : EndsValue text)
    (environment : Environment) : EndsValue (substitute environment text) := by
  cases text with
  | nil => rwa [substitute_nil]
  | cons c rest =>
      have other : c ≠ '$' := by
        rcases ends c rfl with rfl | rfl <;> decide
      rw [substitute_cons environment other]
      exact ends

/-- Items cannot be read if the first of them cannot be or those after it cannot be. -/
theorem readItems_line_eq_none (item : Json.Reader α) {close : Char} (bound level : Nat) {c : Char}
    {text : List Char} (begins : BeginsValue c) (closes : close = ']' ∨ close = '}')
    (fails : ∀ first rest, item (c :: text) = some (first, rest) →
      readTail item close bound rest = none) :
    readItems item close (bound + 1) (newLine level ++ c :: text) = none := by
  rw [readItems_line _ _ _ begins closes]
  cases read : item (c :: text) with
  | none => rfl
  | some result =>
      obtain ⟨first, rest⟩ := result
      simp [fails first rest read]

/-- Reading a value in which no reference is opened leaves what substitution makes of the rest. -/
theorem left_of_readValue {environment : Environment} {bound depth level : Nat} {value : Json}
    {rest left : List Char} {tree : Tree} (whole : Whole value) (ends : EndsValue rest)
    (inBound : (prettyChars level value).length ≤ bound)
    (inDepth : (prettyChars level value).length ≤ depth) (closed : ¬AnyOpens (texts value))
    (read : readValue bound depth (substitute environment (prettyChars level value ++ rest)) =
      some (tree, left)) : left = substitute environment rest := by
  rw [settled_pretty value level whole closed, readValue_pretty bound value level depth _ whole
    (ends.substitute environment) inBound inDepth, Option.map_eq_some_iff] at read
  obtain ⟨_, _, same⟩ := read
  exact (Prod.mk.inj same).2.symm

/-- Printed items cannot be read with a line break in the first of them, or in those after it. -/
theorem readItems_lineBreaking {bound depth loop level : Nat} {first : Json} {others : List Json}
    {rest : List Char} (whole : Whole first) (inBound : (prettyChars (level + 1) first).length ≤ bound)
    (inDepth : (prettyChars (level + 1) first).length ≤ depth)
    (opens : AnyOpens (texts first) ∨ AnyOpens (itemTexts others))
    (one : AnyOpens (texts first) →
      readValue bound depth (substitute lineBreaking
        (prettyChars (level + 1) first ++ (prettyItems level others ++ rest))) = none)
    (more : AnyOpens (itemTexts others) →
      readTail (readValue bound depth) ']' loop
        (substitute lineBreaking (prettyItems level others ++ rest)) = none) :
    readItems (readValue bound depth) ']' (loop + 1) (substitute lineBreaking
      (newLine (level + 1) ++ (prettyChars (level + 1) first ++
        (prettyItems level others ++ rest)))) = none := by
  obtain ⟨c, tail, same, begins⟩ := exists_begins_substitute lineBreaking (level + 1) first whole
    (prettyItems level others ++ rest)
  rw [settled_newLine, same]
  refine readItems_line_eq_none _ _ _ begins (.inl rfl) fun tree left read => ?_
  rw [← same] at read
  by_cases here : AnyOpens (texts first)
  · rw [one here] at read
    cases read
  · rw [left_of_readValue whole (endsValue_items level others rest) inBound inDepth here read]
    exact more (opens.resolve_left here)

/-- Printed members cannot be read with a line break in the first key or its value, or in those after
them. -/
theorem readMembers_lineBreaking {bound depth loop level : Nat} {key : String} {value : Json}
    {others : List (String × Json)} {rest : List Char} (whole : Whole value)
    (inBound : (prettyChars (level + 1) value).length ≤ bound)
    (inDepth : (prettyChars (level + 1) value).length ≤ depth)
    (closes : '}' ∈ prettyMembers level others)
    (opens : OpensReference key.toList ∨ AnyOpens (texts value) ∨ AnyOpens (memberTexts others))
    (one : AnyOpens (texts value) →
      readValue bound depth (substitute lineBreaking
        (prettyChars (level + 1) value ++ (prettyMembers level others ++ rest))) = none)
    (more : AnyOpens (memberTexts others) →
      readTail (readMember (readValue bound depth)) '}' loop
        (substitute lineBreaking (prettyMembers level others ++ rest)) = none) :
    readItems (readMember (readValue bound depth)) '}' (loop + 1) (substitute lineBreaking
      (newLine (level + 1) ++ (quotedChars key.toList ++ ':' :: ' ' ::
        (prettyChars (level + 1) value ++ (prettyMembers level others ++ rest))))) = none := by
  rw [settled_newLine]
  by_cases inKey : OpensReference key.toList
  · rw [quotedChars, List.cons_append, List.append_assoc, List.singleton_append,
      substitute_cons lineBreaking (by decide)]
    refine readItems_line_eq_none _ _ _ (by decide) (.inr rfl) fun member left read => ?_
    rw [readMember, readKey, readQuoted_lineBreaking inKey (by simp [closes])] at read
    cases read
  · have line := readMember_line bound depth key.toList (substitute lineBreaking
      (prettyChars (level + 1) value ++ (prettyMembers level others ++ rest)))
    rw [settled_quotedChars inKey, substitute_cons lineBreaking (by decide),
      substitute_cons lineBreaking (by decide)]
    rw [quotedChars, List.cons_append] at line ⊢
    refine readItems_line_eq_none _ _ _ (by decide) (.inr rfl) fun member left read => ?_
    rw [line] at read
    split at read
    · obtain ⟨⟨tree, rest'⟩, readFirst, same⟩ := Option.map_eq_some_iff.mp read
      obtain ⟨_, rfl⟩ := Prod.mk.inj same
      by_cases here : AnyOpens (texts value)
      · rw [one here] at readFirst
        cases readFirst
      · rw [left_of_readValue whole (endsValue_members level others rest) inBound inDepth here
          readFirst]
        exact more ((opens.resolve_left inKey).resolve_left here)
    · cases read

theorem closes_members (level : Nat) (members : List (String × Json)) :
    '}' ∈ prettyMembers level members := by
  induction members with
  | nil => simp [prettyMembers]
  | cons member others inductionHypothesis => simp [prettyMembers, inductionHypothesis]

mutual

/-- A printed value in which a reference is opened cannot be read with line breaks for references, if
a closing brace follows somewhere. -/
theorem readValue_lineBreaking (bound : Nat) : ∀ (value : Json) (level depth : Nat)
    (rest : List Char), Whole value → AnyOpens (texts value) → '}' ∈ rest →
    (prettyChars level value).length ≤ bound → (prettyChars level value).length ≤ depth →
    readValue bound depth (substitute lineBreaking (prettyChars level value ++ rest)) = none
  | .str text, level, depth, rest, _, opens, closes, _, _ => by
      have inside : OpensReference text.toList := by simpa [AnyOpens, texts] using opens
      rw [prettyChars, quotedChars, List.cons_append, List.append_assoc, List.singleton_append,
        substitute_cons lineBreaking (by decide)]
      unfold readValue
      rw [skip_cons _ (by decide) (by decide)]
      simp [readQuoted_lineBreaking inside closes]
  | .arr (first :: others), level, depth, rest, whole, opens, closes, inBound, inDepth => by
      rw [texts, itemTexts, anyOpens_append] at opens
      simp only [prettyChars, List.length_cons, List.length_append] at inBound inDepth
      obtain ⟨bound, rfl⟩ : ∃ smaller, bound = smaller + 1 := ⟨bound - 1, by omega⟩
      obtain ⟨depth, rfl⟩ : ∃ smaller, depth = smaller + 1 := ⟨depth - 1, by omega⟩
      have items := readItems_lineBreaking whole.1 (by omega) (by omega) opens
        (fun here => readValue_lineBreaking (bound + 1) first (level + 1) depth
          (prettyItems level others ++ rest) whole.1 here (List.mem_append_right _ closes)
          (by omega) (by omega))
        (fun later => readTail_items_lineBreaking (bound + 1) others level depth bound rest whole.2
          later closes (by omega) (by omega) (by omega))
      simp only [prettyChars, List.cons_append, List.append_assoc]
      rw [substitute_cons lineBreaking (by decide), readValue_array, items]
      rfl
  | .obj ⟨members⟩, level, depth, rest, whole, opens, _, inBound, inDepth =>
      readObject_lineBreaking bound members level depth rest whole opens inBound inDepth
  | .null, _, _, _, _, opens, _, _, _ => by simp [AnyOpens, texts] at opens
  | .bool _, _, _, _, _, opens, _, _, _ => by simp [AnyOpens, texts] at opens
  | .num _, _, _, _, _, opens, _, _, _ => by simp [AnyOpens, texts] at opens
  | .arr [], _, _, _, _, opens, _, _, _ => by simp [AnyOpens, texts, itemTexts] at opens

/-- A printed object in which a reference is opened cannot be read with line breaks for references;
the object itself ends with a closing brace. -/
theorem readObject_lineBreaking (bound : Nat) : ∀ (members : List (String × Json))
    (level depth : Nat) (rest : List Char), WholeMembers members → AnyOpens (memberTexts members) →
    (prettyChars level (.obj ⟨members⟩)).length ≤ bound →
    (prettyChars level (.obj ⟨members⟩)).length ≤ depth →
    readValue bound depth (substitute lineBreaking (prettyChars level (.obj ⟨members⟩) ++ rest)) =
      none
  | [], _, _, _, _, opens, _, _ => by simp [AnyOpens, memberTexts] at opens
  | (key, value) :: others, level, depth, rest, whole, opens, inBound, inDepth => by
      rw [memberTexts, anyOpens_cons, anyOpens_append] at opens
      simp only [prettyChars, List.length_cons, List.length_append] at inBound inDepth
      obtain ⟨bound, rfl⟩ : ∃ smaller, bound = smaller + 1 := ⟨bound - 1, by omega⟩
      obtain ⟨depth, rfl⟩ : ∃ smaller, depth = smaller + 1 := ⟨depth - 1, by omega⟩
      have closes := closes_members level others
      have members := readMembers_lineBreaking whole.1 (by omega) (by omega) closes opens
        (fun here => readValue_lineBreaking (bound + 1) value (level + 1) depth
          (prettyMembers level others ++ rest) whole.1 here (List.mem_append_left _ closes)
          (by omega) (by omega))
        (fun later => readTail_members_lineBreaking (bound + 1) others level depth bound rest
          whole.2 later (by omega) (by omega) (by omega))
      simp only [prettyChars, List.cons_append, List.append_assoc]
      rw [substitute_cons lineBreaking (by decide), readValue_object, members]
      rfl

theorem readTail_items_lineBreaking (bound : Nat) : ∀ (items : List Json)
    (level depth loop : Nat) (rest : List Char), WholeItems items → AnyOpens (itemTexts items) →
    '}' ∈ rest → (prettyItems level items).length ≤ bound →
    (prettyItems level items).length ≤ depth → (prettyItems level items).length ≤ loop →
    readTail (readValue bound depth) ']' loop
      (substitute lineBreaking (prettyItems level items ++ rest)) = none
  | [], _, _, _, _, _, opens, _, _, _, _ => by simp [AnyOpens, itemTexts] at opens
  | value :: others, level, depth, loop, rest, whole, opens, closes, inBound, inDepth, inLoop => by
      rw [itemTexts, anyOpens_append] at opens
      simp only [prettyItems, List.length_cons, List.length_append] at inBound inDepth inLoop
      obtain ⟨loop, rfl⟩ : ∃ smaller, loop = smaller + 1 := ⟨loop - 1, by omega⟩
      have items := readItems_lineBreaking whole.1 (by omega) (by omega) opens
        (fun here => readValue_lineBreaking bound value (level + 1) depth
          (prettyItems level others ++ rest) whole.1 here (List.mem_append_right _ closes)
          (by omega) (by omega))
        (fun later => readTail_items_lineBreaking bound others level depth loop rest whole.2 later
          closes (by omega) (by omega) (by omega))
      simp only [prettyItems, List.cons_append, List.append_assoc]
      rw [substitute_cons lineBreaking (by decide), readTail,
        skip_cons _ (by decide) (by decide)]
      exact items

theorem readTail_members_lineBreaking (bound : Nat) : ∀ (members : List (String × Json))
    (level depth loop : Nat) (rest : List Char), WholeMembers members →
    AnyOpens (memberTexts members) → (prettyMembers level members).length ≤ bound →
    (prettyMembers level members).length ≤ depth →
    (prettyMembers level members).length ≤ loop →
    readTail (readMember (readValue bound depth)) '}' loop
      (substitute lineBreaking (prettyMembers level members ++ rest)) = none
  | [], _, _, _, _, _, opens, _, _, _ => by simp [AnyOpens, memberTexts] at opens
  | (key, value) :: others, level, depth, loop, rest, whole, opens, inBound, inDepth, inLoop => by
      rw [memberTexts, anyOpens_cons, anyOpens_append] at opens
      simp only [prettyMembers, List.length_cons, List.length_append] at inBound inDepth inLoop
      obtain ⟨loop, rfl⟩ : ∃ smaller, loop = smaller + 1 := ⟨loop - 1, by omega⟩
      have closes := closes_members level others
      have members := readMembers_lineBreaking whole.1 (by omega) (by omega) closes opens
        (fun here => readValue_lineBreaking bound value (level + 1) depth
          (prettyMembers level others ++ rest) whole.1 here (List.mem_append_left _ closes)
          (by omega) (by omega))
        (fun later => readTail_members_lineBreaking bound others level depth loop rest
          whole.2 later (by omega) (by omega) (by omega))
      simp only [prettyMembers, List.cons_append, List.append_assoc]
      rw [substitute_cons lineBreaking (by decide), readTail,
        skip_cons _ (by decide) (by decide)]
      exact members

end

/-- A printed object in which a reference is opened is no text that can be read any more with line
breaks for references. -/
theorem parse?_lineBreaking {members : List (String × Json)} (whole : WholeMembers members)
    (opens : AnyOpens (memberTexts members)) :
    parse? (substitute lineBreaking (prettyChars 0 (.obj ⟨members⟩))) = none := by
  -- Reading is bounded by the length of the text that it is given.
  have longer := length_le_length_substitute (prettyChars 0 (.obj ⟨members⟩))
  have read := readObject_lineBreaking _ members 0 _ [] whole opens (Nat.le_succ_of_le longer) longer
  rw [List.append_nil] at read
  rw [parse?, read]

end Dialogue.Json5

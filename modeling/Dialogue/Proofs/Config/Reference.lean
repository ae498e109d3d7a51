import Dialogue.Config.Load
/-!
# References in texts

Substitution cuts a text into plain characters and references and loses nothing.  A text is left as
it is by the variables that hold references to themselves, and by all variables if it opens no
reference.  An opening mark opens one unless a closing brace stands right behind it; whether the
reference is closed depends on what follows, and its name takes everything before the brace.
-/

namespace Dialogue

/-! ### Parts -/

theorem reference?_eq_some_iff {text name rest : List Char} :
    reference? text = some (name, rest) ↔
      name ≠ [] ∧ (∀ c ∈ name, c ≠ '}') ∧ text = name ++ '}' :: rest := by
  have parts : text = text.takeWhile (· != '}') ++ text.dropWhile (· != '}') :=
    List.takeWhile_append_dropWhile.symm
  constructor
  · intro found
    unfold reference? at found
    split at found
    · next first tail c after taken dropped =>
        obtain ⟨rfl, rfl⟩ := Prod.mk.inj (Option.some.inj found)
        have closing : c = '}' := by
          have stops := List.head?_dropWhile_not (· != '}') text
          rw [dropped] at stops
          simpa using stops
        have inside : ∀ c ∈ first :: tail, c ≠ '}' := by
          intro c member
          rw [← taken] at member
          simpa using List.all_eq_true.mp List.all_takeWhile c member
        rw [taken, dropped, closing] at parts
        exact ⟨List.cons_ne_nil _ _, inside, parts⟩
    · cases found
  · rintro ⟨notEmpty, inside, rfl⟩
    have all : ∀ c ∈ name, (c != '}') = true := fun c member => by simpa using inside c member
    obtain ⟨first, tail, rfl⟩ := List.exists_cons_of_ne_nil notEmpty
    rw [reference?, List.takeWhile_append_of_pos all, List.dropWhile_append_of_pos all]
    simp

/-- A name is not empty. -/
theorem reference?_eq_none {text : List Char} (closes : text.head? = some '}') :
    reference? text = none := by
  obtain ⟨rest, rfl⟩ := List.head?_eq_some_iff.mp closes
  rfl

/-- A reference that is opened goes up to the first closing brace. -/
theorem exists_reference {text : List Char} (opens : text.head? ≠ some '}') (closes : '}' ∈ text) :
    ∃ name rest, reference? text = some (name, rest) := by
  obtain ⟨name, rest, rfl, inside⟩ := List.eq_append_cons_of_mem closes
  refine ⟨name, rest, reference?_eq_some_iff.mpr ⟨?_, ?_, rfl⟩⟩
  · rintro rfl
    exact opens rfl
  · rintro c member rfl
    exact inside member

/-- The text of a part. -/
def Segment.text : Segment → List Char
  | .plain c => [c]
  | .variable name => '$' :: '{' :: (name ++ ['}'])

/-- Cutting a text into parts loses nothing. -/
theorem flatMap_text_segments (text : List Char) : (segments text).flatMap Segment.text = text := by
  induction text using segments.induct with
  | case1 => rw [segments, List.flatMap_nil]
  | case2 text name rest found inductionHypothesis =>
      obtain ⟨_, _, rfl⟩ := reference?_eq_some_iff.mp found
      rw [segments]
      split
      · next same =>
          obtain ⟨rfl, rfl⟩ := Prod.mk.inj (Option.some.inj (found.symm.trans same))
          simp [Segment.text, inductionHypothesis]
      · next none => rw [none] at found; cases found
  | case3 text none inductionHypothesis =>
      rw [segments]
      split
      · next same => rw [none] at same; cases same
      · rw [List.flatMap_cons, inductionHypothesis]
        rfl
  | case4 c rest noMark inductionHypothesis =>
      rw [segments]
      · rw [List.flatMap_cons, inductionHypothesis]
        rfl
      · exact noMark

/-- Every variable holds a reference to itself. -/
def selfReferring : Environment :=
  fun name => some (String.ofList (Segment.variable name.toList).text)

/-- References to variables that hold the same references are left as they are. -/
theorem substitute_selfReferring (text : List Char) : substitute selfReferring text = text := by
  have same : ∀ segment : Segment, segment.expand selfReferring = segment.text := by
    rintro (c | name)
    · rfl
    · simp [Segment.expand, selfReferring]
  rw [substitute, funext same, flatMap_text_segments]

/-- Every variable holds a line break and a reference to itself.  So no text gets shorter. -/
def lineBreaking : Environment :=
  fun name => some (String.ofList ('\n' :: (Segment.variable name.toList).text))

theorem length_le_length_substitute (text : List Char) :
    text.length ≤ (substitute lineBreaking text).length := by
  have longer : ∀ segment : Segment, segment.text.length ≤ (segment.expand lineBreaking).length := by
    rintro (c | name)
    · exact Nat.le_refl _
    · simp [Segment.expand, lineBreaking]
  conv => lhs; rw [← flatMap_text_segments text]
  rw [substitute]
  induction segments text with
  | nil => simp
  | cons segment segments inductionHypothesis =>
      rw [List.flatMap_cons, List.flatMap_cons, List.length_append, List.length_append]
      exact Nat.add_le_add (longer segment) inductionHypothesis

/-! ### Opening marks -/

/-- An opening mark stands in a text, and no closing brace stands right behind it. -/
def OpensReference (text : List Char) : Prop :=
  ∃ before after, text = before ++ '$' :: '{' :: after ∧ after.head? ≠ some '}'

/-- An opening mark stands at the beginning of a text or later. -/
theorem opensReference_cons {c : Char} {text : List Char} :
    OpensReference (c :: text) ↔
      (c = '$' ∧ ∃ after, text = '{' :: after ∧ after.head? ≠ some '}') ∨ OpensReference text := by
  constructor
  · rintro ⟨before, after, same, opens⟩
    cases before with
    | nil =>
        obtain ⟨rfl, rfl⟩ := List.cons.inj same
        exact .inl ⟨rfl, after, rfl, opens⟩
    | cons first before =>
        obtain ⟨rfl, rfl⟩ := List.cons.inj same
        exact .inr ⟨before, after, rfl, opens⟩
  · rintro (⟨rfl, after, rfl, opens⟩ | ⟨before, after, rfl, opens⟩)
    · exact ⟨[], after, rfl, opens⟩
    · exact ⟨c :: before, after, rfl, opens⟩

theorem not_opensReference_nil : ¬OpensReference [] := by
  rintro ⟨before, after, same, _⟩
  simp at same

theorem not_opensReference_of_not_mem {text : List Char} (noDollar : '$' ∉ text) :
    ¬OpensReference text := by
  rintro ⟨before, after, rfl, _⟩
  simp at noDollar

/-! ### Substitution from the front -/

theorem substitute_nil (environment : Environment) : substitute environment [] = [] := by
  rw [substitute, segments, List.flatMap_nil]

/-- A character is kept if no reference begins with it. -/
theorem substitute_plain (environment : Environment) {c : Char} {text : List Char}
    (plain : c = '$' → ∀ after, text = '{' :: after → reference? after = none) :
    substitute environment (c :: text) = c :: substitute environment text := by
  rw [substitute]
  unfold segments
  split
  · next same => cases same
  · next after same =>
      obtain ⟨rfl, rfl⟩ := List.cons.inj same
      have none := plain rfl after rfl
      split
      · next found => rw [none] at found; cases found
      · rfl
  · next same =>
      obtain ⟨rfl, rfl⟩ := List.cons.inj same
      rfl

theorem substitute_cons (environment : Environment) {c : Char} {text : List Char}
    (other : c ≠ '$') : substitute environment (c :: text) = c :: substitute environment text :=
  substitute_plain environment fun same => absurd same other

/-- A reference is replaced by the value of its variable. -/
theorem substitute_reference (environment : Environment) {text name rest : List Char}
    (found : reference? text = some (name, rest)) :
    substitute environment ('$' :: '{' :: text) =
      ((environment (String.ofList name)).getD "").toList ++ substitute environment rest := by
  rw [substitute, segments]
  split
  · next same =>
      obtain ⟨rfl, rfl⟩ := Prod.mk.inj (Option.some.inj (found.symm.trans same))
      rfl
  · next none => rw [none] at found; cases found

/-- Whatever follows this text, substitution leaves it as it is and goes on behind it. -/
def Settled (front : List Char) : Prop :=
  ∀ environment rest, substitute environment (front ++ rest) = front ++ substitute environment rest

namespace Settled

theorem cons {c : Char} {front : List Char} (other : c ≠ '$') (later : Settled front) :
    Settled (c :: front) := by
  intro environment rest
  rw [List.cons_append, substitute_cons environment other, later]
  rfl

theorem of_not_mem {front : List Char} (noDollar : '$' ∉ front) : Settled front := by
  induction front with
  | nil => exact fun _ _ => rfl
  | cons c front inductionHypothesis =>
      rw [List.mem_cons, not_or] at noDollar
      exact cons (Ne.symm noDollar.1) (inductionHypothesis noDollar.2)

theorem append {front back : List Char} (first : Settled front) (second : Settled back) :
    Settled (front ++ back) := by
  intro environment rest
  rw [List.append_assoc, first, second, List.append_assoc]

theorem substitute_eq {text : List Char} (settled : Settled text) (environment : Environment) :
    substitute environment text = text := by
  have whole := settled environment []
  rwa [substitute_nil, List.append_nil] at whole

end Settled

end Dialogue

import Dialogue.Proofs.Config.Reference
/-!
# One pass from left to right

Every text is literal text with references in it.  An opening mark in the literal text before a
reference has a closing brace right behind it, and behind the last reference an opening mark may
also have no closing brace after it at all; names take any characters but closing braces.
Substitution puts the values of the variables in the places of the references, keeps the literal
text as it is, and looks at nothing twice.
-/

namespace Dialogue

/-! ### Texts with references -/

/-- A reference and the literal text before it. -/
structure Reference where
  literal : List Char
  name : List Char

namespace Reference

/-- The reference as it is written. -/
def text (reference : Reference) : List Char :=
  reference.literal ++ (Segment.variable reference.name).text

/-- The reference with the value of its variable in its place; an unset variable is empty. -/
def filled (environment : Environment) (reference : Reference) : List Char :=
  reference.literal ++ (Segment.variable reference.name).expand environment

/-- A name is not empty and holds no closing brace. -/
def Named (reference : Reference) : Prop :=
  reference.name ≠ [] ∧ '}' ∉ reference.name

end Reference

/-- No opening mark stands in a text. -/
def Unmarked (text : List Char) : Prop :=
  ¬['$', '{'] <:+: text

/-- Every opening mark in a text has a closing brace right behind it or none after it at all. -/
def Inert (text : List Char) : Prop :=
  ∀ before after, text = before ++ '$' :: '{' :: after → after.head? = some '}' ∨ '}' ∉ after

/-- A text with its references, the last of which has inert text behind it. -/
structure Template where
  references : List Reference
  rest : List Char
  closed : ∀ reference ∈ references, ¬OpensReference reference.literal
  named : ∀ reference ∈ references, reference.Named
  inert : Inert rest

namespace Template

def text (template : Template) : List Char :=
  template.references.flatMap Reference.text ++ template.rest

def filled (environment : Environment) (template : Template) : List Char :=
  template.references.flatMap (Reference.filled environment) ++ template.rest

end Template

/-! ### Literal text -/

theorem not_opensReference_of_unmarked {text : List Char} (unmarked : Unmarked text) :
    ¬OpensReference text := by
  rintro ⟨before, after, rfl, _⟩
  exact unmarked ⟨before, after, by simp⟩

theorem inert_of_unmarked {text : List Char} (unmarked : Unmarked text) : Inert text := by
  rintro before after rfl
  exact absurd ⟨before, after, by simp⟩ unmarked

/-- Nothing refers where no closing brace follows or one follows at once. -/
theorem reference?_eq_none_iff {text : List Char} :
    reference? text = none ↔ text.head? = some '}' ∨ '}' ∉ text := by
  constructor
  · intro none
    by_cases closes : '}' ∈ text
    · refine .inl (Decidable.not_not.mp fun opens => ?_)
      obtain ⟨name, rest, found⟩ := exists_reference opens closes
      rw [none] at found
      cases found
    · exact .inr closes
  · rintro (closes | open_)
    · exact reference?_eq_none closes
    · cases found : reference? text with
      | none => rfl
      | some parts =>
          obtain ⟨_, _, rfl⟩ := reference?_eq_some_iff.mp found
          simp at open_

/-- An inert text goes on as an inert text, and no reference begins with its first character. -/
theorem inert_cons_iff {c : Char} {text : List Char} :
    Inert (c :: text) ↔
      (c = '$' → ∀ after, text = '{' :: after → reference? after = none) ∧ Inert text := by
  constructor
  · intro inert
    refine ⟨?_, fun before after same => inert (c :: before) after (by rw [same]; rfl)⟩
    rintro rfl after rfl
    exact reference?_eq_none_iff.mpr (inert [] after rfl)
  · rintro ⟨first, later⟩ before after same
    cases before with
    | nil =>
        obtain ⟨rfl, rfl⟩ := List.cons.inj same
        exact reference?_eq_none_iff.mp (first rfl after rfl)
    | cons head before =>
        obtain ⟨rfl, rfl⟩ := List.cons.inj same
        exact later before after rfl

/-- Inert text is left as it is. -/
theorem substitute_of_inert (environment : Environment) {text : List Char} (inert : Inert text) :
    substitute environment text = text := by
  induction text with
  | nil => exact substitute_nil environment
  | cons c text inductionHypothesis =>
      obtain ⟨first, later⟩ := inert_cons_iff.mp inert
      rw [substitute_plain environment first, inductionHypothesis later]

/-- Literal text before a reference is left as it is: the reference's dollar sign makes no opening
mark with what stands before it. -/
theorem substitute_literal (environment : Environment) {literal : List Char}
    (closed : ¬OpensReference literal) (rest : List Char) :
    substitute environment (literal ++ '$' :: rest) =
      literal ++ substitute environment ('$' :: rest) := by
  induction literal with
  | nil => rfl
  | cons c literal inductionHypothesis =>
      rw [opensReference_cons, not_or] at closed
      have plain : c = '$' → ∀ after, literal ++ '$' :: rest = '{' :: after →
          reference? after = none := by
        rintro rfl after same
        cases literal with
        | nil => cases same
        | cons brace literal =>
            obtain ⟨rfl, rfl⟩ := List.cons.inj same
            have head : literal.head? = some '}' :=
              Decidable.not_not.mp fun opens => closed.1 ⟨rfl, literal, rfl, opens⟩
            obtain ⟨tail, rfl⟩ := List.head?_eq_some_iff.mp head
            rfl
      rw [List.cons_append, substitute_plain environment plain, inductionHypothesis closed.2]
      rfl

/-! ### References -/

/-- A reference is filled in, and substitution goes on behind it. -/
theorem substitute_reference_append (environment : Environment) {reference : Reference}
    (closed : ¬OpensReference reference.literal) (named : reference.Named) (rest : List Char) :
    substitute environment (reference.text ++ rest) =
      reference.filled environment ++ substitute environment rest := by
  have found : reference? (reference.name ++ '}' :: rest) = some (reference.name, rest) :=
    reference?_eq_some_iff.mpr ⟨named.1, fun c member same => named.2 (same ▸ member), rfl⟩
  have written : reference.text ++ rest =
      reference.literal ++ '$' :: '{' :: (reference.name ++ '}' :: rest) := by
    simp [Reference.text, Segment.text]
  rw [written, substitute_literal environment closed, substitute_reference environment found,
    Reference.filled, List.append_assoc]
  rfl

/-- Substitution fills in all references of a text. -/
theorem substitute_template (environment : Environment) (template : Template) :
    substitute environment template.text = template.filled environment := by
  obtain ⟨references, rest, closed, named, inert⟩ := template
  simp only [Template.text, Template.filled]
  induction references with
  | nil => exact substitute_of_inert environment inert
  | cons reference references inductionHypothesis =>
      obtain ⟨closedFirst, closedOthers⟩ := List.forall_mem_cons.mp closed
      obtain ⟨namedFirst, namedOthers⟩ := List.forall_mem_cons.mp named
      rw [List.flatMap_cons, List.append_assoc,
        substitute_reference_append environment closedFirst namedFirst,
        inductionHypothesis closedOthers namedOthers, List.flatMap_cons, List.append_assoc]

/-! ### Every text -/

/-- A character with which no reference begins goes to the literal text at the front. -/
theorem exists_template_cons {c : Char} {text : List Char}
    (later : ∃ template : Template, template.text = text)
    (plain : c = '$' → ∀ after, text = '{' :: after → reference? after = none) :
    ∃ template : Template, template.text = c :: text := by
  obtain ⟨⟨references, rest, closed, named, inert⟩, rfl⟩ := later
  cases references with
  | nil =>
      exact ⟨⟨[], c :: rest, closed, named, inert_cons_iff.mpr ⟨plain, inert⟩⟩, rfl⟩
  | cons reference references =>
      obtain ⟨closedFirst, closedOthers⟩ := List.forall_mem_cons.mp closed
      obtain ⟨namedFirst, namedOthers⟩ := List.forall_mem_cons.mp named
      -- The brace that closes the reference would also close one that is opened before it.
      have still : ¬OpensReference (c :: reference.literal) := by
        rw [opensReference_cons]
        rintro (⟨rfl, after, literal, opens⟩ | opens)
        · have none := plain rfl
            (after ++ (Segment.variable reference.name).text ++
              (references.flatMap Reference.text ++ rest))
            (by simp [Template.text, Reference.text, literal])
          rcases reference?_eq_none_iff.mp none with closes | open_
          · cases after with
            | nil => cases closes
            | cons first after => exact opens closes
          · simp [Segment.text] at open_
        · exact closedFirst opens
      exact ⟨⟨⟨c :: reference.literal, reference.name⟩ :: references, rest,
        List.forall_mem_cons.mpr ⟨still, closedOthers⟩,
        List.forall_mem_cons.mpr ⟨namedFirst, namedOthers⟩, inert⟩, rfl⟩

/-- Every text can be written with its references. -/
theorem exists_template (text : List Char) : ∃ template : Template, template.text = text := by
  induction text using segments.induct with
  | case1 =>
      refine ⟨⟨[], [], by simp, by simp, ?_⟩, rfl⟩
      intro before after same
      simp at same
  | case2 text name rest found inductionHypothesis =>
      obtain ⟨⟨references, last, closed, named, inert⟩, rfl⟩ := inductionHypothesis
      obtain ⟨notEmpty, inside, rfl⟩ := reference?_eq_some_iff.mp found
      have namedFirst : (⟨[], name⟩ : Reference).Named :=
        ⟨notEmpty, fun member => inside _ member rfl⟩
      refine ⟨⟨⟨[], name⟩ :: references, last,
        List.forall_mem_cons.mpr ⟨not_opensReference_nil, closed⟩,
        List.forall_mem_cons.mpr ⟨namedFirst, named⟩, inert⟩, ?_⟩
      simp [Template.text, Reference.text, Segment.text]
  | case3 text none inductionHypothesis =>
      exact exists_template_cons inductionHypothesis fun _ after same => by
        obtain ⟨_, rfl⟩ := List.cons.inj same
        exact none
  | case4 c rest noMark inductionHypothesis =>
      exact exists_template_cons inductionHypothesis fun dollar after same =>
        absurd same (noMark after dollar)

/-- Where no opening mark stands in the literal text, each reference is replaced by the value of its
variable, whatever the value holds, and all else is kept.  A text whose opening marks all have a
closing brace right behind them or none after them is kept as a whole.  And every text is literal
text with references in it, which are replaced so. -/
theorem substitution_in_one_pass (environment : Environment) :
    (∀ (references : List Reference) (rest : List Char),
      (∀ reference ∈ references, Unmarked reference.literal ∧ reference.Named) → Unmarked rest →
      substitute environment (references.flatMap Reference.text ++ rest) =
        references.flatMap (Reference.filled environment) ++ rest) ∧
    (∀ text, Inert text → substitute environment text = text) ∧
    ∀ text, ∃ template : Template, template.text = text ∧
      substitute environment text = template.filled environment := by
  refine ⟨fun references rest unmarked last => ?_, fun text => substitute_of_inert environment,
    fun text => ?_⟩
  · exact substitute_template environment
      { references, rest
        closed := fun reference member =>
          not_opensReference_of_unmarked (unmarked reference member).1
        named := fun reference member => (unmarked reference member).2
        inert := inert_of_unmarked last }
  · obtain ⟨template, rfl⟩ := exists_template text
    exact ⟨template, rfl, substitute_template environment template⟩

/-- A name with an opening mark in it, whose value looks like a reference, right before a variable
that is not set; and two marks that open nothing. -/
theorem lookalikes_kept :
    let environment : Environment := fun name =>
      if name.toList = ['x', '$', '{'] then some (String.ofList ['$', '{', 'y', '}']) else none
    substitute environment ['a', '$', '$', '{', 'x', '$', '{', '}', '$', '{', 'y', '}', '}', '$'] =
      ['a', '$', '$', '{', 'y', '}', '}', '$'] ∧
    substitute environment ['$', '{', '}', '$', '{', 'y'] = ['$', '{', '}', '$', '{', 'y'] := by
  intro environment
  have unmarked : Unmarked ['a', '$'] ∧ Unmarked [] ∧ Unmarked ['}', '$'] := by
    simp only [Unmarked]
    decide
  have named : (⟨['a', '$'], ['x', '$', '{']⟩ : Reference).Named ∧
      (⟨[], ['y']⟩ : Reference).Named := by
    simp only [Reference.Named]
    decide
  have inert : Inert ['$', '{', '}', '$', '{', 'y'] := by
    have nothing : Inert [] := inert_of_unmarked unmarked.2.1
    have none : reference? ['}', '$', '{', 'y'] = none ∧ reference? ['y'] = none := by decide
    simp [inert_cons_iff, nothing, none]
  obtain ⟨all, kept, _⟩ := substitution_in_one_pass environment
  have filled := all [⟨['a', '$'], ['x', '$', '{']⟩, ⟨[], ['y']⟩] ['}', '$']
    (by simp [unmarked, named]) unmarked.2.2
  have values : [(⟨['a', '$'], ['x', '$', '{']⟩ : Reference), ⟨[], ['y']⟩].flatMap
      (Reference.filled environment) = ['a', '$', '$', '{', 'y', '}'] := by
    simp [Reference.filled, Segment.expand, environment]
  rw [values] at filled
  exact ⟨filled, kept _ inert⟩

end Dialogue

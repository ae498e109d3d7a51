import Dialogue.Proofs.Script.Compilation
import Mathlib.Data.List.Basic
import Mathlib.Data.List.Induction
/-!
# Which sequences of elements are built

Building reads a sequence from left to right and goes on after a violation: a block that opens
inside another one does not replace it, and an end without a block changes nothing.  What is noted
is the first violation all the same, because everything before it has been read without one.

So a sequence is built exactly if it is made of plain elements and of blocks of plain elements, and
else the error is that of the first element that violates this, or, if there is none, that of the
block that is open at the end.
-/

namespace Dialogue

/-- Whether an element opens or ends a block. -/
def Element.isMarker : Element → Bool
  | .ifOption _ _ => true
  | .endIf => true
  | _ => false

/-- The elements can be read from left to right without a violation, after which the block of this
key is open, or none. -/
inductive Orderly : List Element → Option String → Prop where
  | start : Orderly [] none
  | plain {elements : List Element} {openKey : Option String} {element : Element}
      (before : Orderly elements openKey) (plain : element.isMarker = false) :
      Orderly (elements ++ [element]) openKey
  | opened {elements : List Element} {key : String} {allowed : Option (List Json)}
      (before : Orderly elements none) :
      Orderly (elements ++ [.ifOption key allowed]) (some key)
  | ended {elements : List Element} {key : String} (before : Orderly elements (some key)) :
      Orderly (elements ++ [.endIf]) none

/-- The element must not come while the block of this key is open, or while none is. -/
inductive Violates : Option String → Element → ScriptError → Prop where
  | nested {outer inner : String} {allowed : Option (List Json)} :
      Violates (some outer) (.ifOption inner allowed) (.nestedConditional inner outer)
  | unbalanced : Violates none .endIf .unbalancedEndIf

/-- The first violation in some elements: that of the first element that must not come where it
does, or a block that is open at the end. -/
inductive FirstViolation (elements : List Element) : ScriptError → Prop where
  | element {before after : List Element} {element : Element} {openKey : Option String}
      {error : ScriptError}
      (split : elements = before ++ element :: after)
      (orderly : Orderly before openKey)
      (violates : Violates openKey element error) :
      FirstViolation elements error
  | unterminated {key : String} (orderly : Orderly elements (some key)) :
      FirstViolation elements (.unterminatedConditional key)

/-- Plain elements, and blocks of plain elements. -/
inductive Balanced : List Element → Prop where
  | nil : Balanced []
  | plain {element : Element} {rest : List Element} (plain : element.isMarker = false)
      (later : Balanced rest) :
      Balanced (element :: rest)
  | block {key : String} {allowed : Option (List Json)} {body rest : List Element}
      (plain : ∀ element ∈ body, element.isMarker = false) (later : Balanced rest) :
      Balanced (.ifOption key allowed :: (body ++ .endIf :: rest))

variable {elements before body : List Element} {openKey : Option String} {key : String}

/-! ### Reading -/

namespace BlockCheck

/-- A plain element changes nothing. -/
theorem read_of_plain {element : Element} (check : BlockCheck) (plain : element.isMarker = false) :
    check.read element = check := by
  cases element with
  | ifOption | endIf => cases plain
  | call | await | output | splice => rfl

/-- An element that must not come is noted. -/
theorem violation_read_of_violates {element : Element} {error : ScriptError}
    (violates : Violates openKey element error) :
    (read ⟨openKey, none⟩ element).violation = some error := by
  cases violates with
  | nested | unbalanced => rfl

/-- Reading orderly elements notes nothing but the block that they leave open. -/
theorem foldl_read_of_orderly (orderly : Orderly elements openKey) :
    elements.foldl read start = ⟨openKey, none⟩ := by
  induction orderly with
  | start => rfl
  | plain before plain inductionHypothesis =>
      rw [List.foldl_concat, inductionHypothesis, read_of_plain _ plain]
  | opened before inductionHypothesis =>
      rw [List.foldl_concat, inductionHypothesis]
      rfl
  | ended before inductionHypothesis =>
      rw [List.foldl_concat, inductionHypothesis]
      rfl

end BlockCheck

/-- After orderly elements every element is orderly too, or violates the order. -/
theorem Orderly.next (orderly : Orderly elements openKey) (element : Element) :
    (∃ later, Orderly (elements ++ [element]) later) ∨ ∃ error, Violates openKey element error := by
  cases element with
  | ifOption key allowed =>
      cases openKey with
      | none => exact .inl ⟨_, orderly.opened⟩
      | some outer => exact .inr ⟨_, .nested⟩
  | endIf =>
      cases openKey with
      | none => exact .inr ⟨_, .unbalanced⟩
      | some key => exact .inl ⟨_, orderly.ended⟩
  | call | await | output | splice => exact .inl ⟨_, orderly.plain rfl⟩

/-- Elements that are not orderly have a first violation. -/
theorem exists_firstViolation (disorderly : ¬∃ openKey, Orderly elements openKey) :
    ∃ error, FirstViolation elements error := by
  induction elements using List.reverseRecOn with
  | nil => exact absurd ⟨none, .start⟩ disorderly
  | append_singleton before last inductionHypothesis =>
      by_cases ordered : ∃ openKey, Orderly before openKey
      · obtain ⟨openKey, orderly⟩ := ordered
        rcases orderly.next last with later | ⟨error, violates⟩
        · exact absurd later disorderly
        · exact ⟨error, .element rfl orderly violates⟩
      · obtain ⟨error, violation⟩ := inductionHypothesis ordered
        cases violation with
        | unterminated orderly => exact absurd ⟨_, orderly⟩ ordered
        | @element earlier after element openKey _ split orderly violates =>
            have extended : before ++ [last] = earlier ++ element :: (after ++ [last]) := by
              rw [split, List.append_assoc, List.cons_append]
            exact ⟨error, .element extended orderly violates⟩

/-! ### The grammar -/

/-- Elements that are well formed can be put in front of others. -/
theorem Balanced.append (first : Balanced before) (second : Balanced elements) :
    Balanced (before ++ elements) := by
  induction first with
  | nil => exact second
  | plain plain later inductionHypothesis => exact .plain plain inductionHypothesis
  | block plain later inductionHypothesis =>
      rw [List.cons_append, List.append_assoc, List.cons_append]
      exact .block plain inductionHypothesis

/-- Plain elements leave the block open that was open before them. -/
theorem Orderly.append_plain (orderly : Orderly before openKey)
    (plain : ∀ element ∈ body, element.isMarker = false) : Orderly (before ++ body) openKey := by
  induction body generalizing before with
  | nil =>
      rw [List.append_nil]
      exact orderly
  | cons element rest inductionHypothesis =>
      obtain ⟨first, others⟩ := List.forall_mem_cons.mp plain
      rw [List.append_cons]
      exact inductionHypothesis (orderly.plain first) others

/-- Balanced elements leave no block open. -/
theorem Orderly.append_balanced (orderly : Orderly before none) (balanced : Balanced elements) :
    Orderly (before ++ elements) none := by
  induction balanced generalizing before with
  | nil =>
      rw [List.append_nil]
      exact orderly
  | plain plain later inductionHypothesis =>
      rw [List.append_cons]
      exact inductionHypothesis (orderly.plain plain)
  | @block key allowed body rest plain later inductionHypothesis =>
      have inside : Orderly (before ++ [.ifOption key allowed] ++ body) (some key) :=
        orderly.opened.append_plain plain
      have outside := inductionHypothesis inside.ended
      simpa using outside

/-- The elements are balanced, up to the block of this key if one is open: what comes before it is
balanced, and plain elements come after its beginning. -/
def BalancedUpTo (openKey : Option String) (elements : List Element) : Prop :=
  match openKey with
  | none => Balanced elements
  | some key => ∃ before allowed body, elements = before ++ .ifOption key allowed :: body ∧
      Balanced before ∧ ∀ element ∈ body, element.isMarker = false

/-- Orderly elements are balanced up to the block that they leave open. -/
theorem balancedUpTo_of_orderly (orderly : Orderly elements openKey) :
    BalancedUpTo openKey elements := by
  induction orderly with
  | start => exact .nil
  | @plain elements openKey element _ plain inductionHypothesis =>
      cases openKey with
      | none =>
          have balanced : Balanced elements := inductionHypothesis
          exact balanced.append (.plain plain .nil)
      | some key =>
          obtain ⟨before, allowed, body, rfl, balanced, others⟩ := inductionHypothesis
          refine ⟨before, allowed, body ++ [element], by simp, balanced, ?_⟩
          intro member inBody
          rcases List.mem_append.mp inBody with earlier | last
          · exact others member earlier
          · rw [List.mem_singleton.mp last]
            exact plain
  | @opened elements key allowed _ inductionHypothesis =>
      exact ⟨elements, allowed, [], rfl, inductionHypothesis, by simp⟩
  | @ended elements key _ inductionHypothesis =>
      obtain ⟨before, allowed, body, rfl, balanced, plain⟩ := inductionHypothesis
      have extended : Balanced (before ++ .ifOption key allowed :: (body ++ [.endIf])) :=
        balanced.append (.block plain .nil)
      simpa [BalancedUpTo] using extended

/-- The elements that leave no block open are the balanced ones. -/
theorem orderly_none_iff_balanced : Orderly elements none ↔ Balanced elements := by
  constructor
  · intro orderly
    exact balancedUpTo_of_orderly orderly
  · intro balanced
    exact Orderly.append_balanced .start balanced

/-! ### Building -/

/-- Building fails with what the verdict says, and else leaves the elements as they are. -/
theorem build_eq_of_verdict (name : String) (elements : List Element) :
    Script.build name elements =
      (elements.foldl BlockCheck.read .start).verdict.map fun _ => ⟨name, elements⟩ := by
  rw [Script.build]
  cases (elements.foldl BlockCheck.read .start).verdict <;> rfl

/-- Orderly elements that leave no block open are built. -/
theorem build_of_orderly (name : String) (orderly : Orderly elements none) :
    Script.build name elements = .ok ⟨name, elements⟩ := by
  rw [build_eq_of_verdict, BlockCheck.foldl_read_of_orderly orderly]
  rfl

/-- The first violation is the error, whatever comes after it. -/
theorem build_of_firstViolation (name : String) {error : ScriptError}
    (violation : FirstViolation elements error) :
    Script.build name elements = .error error := by
  rw [build_eq_of_verdict]
  cases violation with
  | @element before after element openKey error split orderly violates =>
      have noted := BlockCheck.violation_read_of_violates violates
      rw [split, List.foldl_append, List.foldl_cons, BlockCheck.foldl_read_of_orderly orderly,
        BlockCheck.verdict_of_violation noted]
      rfl
  | unterminated orderly =>
      rw [BlockCheck.foldl_read_of_orderly orderly]
      rfl

/-- Elements have a first violation unless they are orderly and leave no block open. -/
theorem orderly_or_firstViolation (elements : List Element) :
    Orderly elements none ∨ ∃ error, FirstViolation elements error := by
  by_cases ordered : ∃ openKey, Orderly elements openKey
  · obtain ⟨openKey, orderly⟩ := ordered
    cases openKey with
    | none => exact .inl orderly
    | some key => exact .inr ⟨_, .unterminated orderly⟩
  · exact .inr (exists_firstViolation ordered)

/-- Exactly the balanced sequences are built, and every other one fails with its first violation.
Read from left to right, a sequence that is built opens a block only where none is open, ends one
only where one is, and leaves none open; it then consists of plain elements and of blocks of plain
elements, and the script has the elements as they were given.  Every other sequence has a first
element that must not come where it does, or a block that is open at the end, and the error is the
one for that, whatever violations come later. -/
theorem build_accepts_exactly_balanced (name : String) (elements : List Element) :
    (∀ script, Script.build name elements = .ok script ↔
      Orderly elements none ∧ script = ⟨name, elements⟩) ∧
    (Orderly elements none ↔ Balanced elements) ∧
    ∀ error, Script.build name elements = .error error ↔ FirstViolation elements error := by
  refine ⟨fun script => ?_, orderly_none_iff_balanced, fun error => ?_⟩
  · constructor
    · intro built
      rcases orderly_or_firstViolation elements with orderly | ⟨error, violation⟩
      · rw [build_of_orderly name orderly] at built
        exact ⟨orderly, (Except.ok.inj built).symm⟩
      · rw [build_of_firstViolation name violation] at built
        cases built
    · rintro ⟨orderly, rfl⟩
      exact build_of_orderly name orderly
  · constructor
    · intro failed
      rcases orderly_or_firstViolation elements with orderly | ⟨first, violation⟩
      · rw [build_of_orderly name orderly] at failed
        cases failed
      · rw [build_of_firstViolation name violation] at failed
        rw [← Except.error.inj failed]
        exact violation
    · exact build_of_firstViolation name

/-- The inner block is the first violation; the end that is too many comes later. -/
example : Script.build "nested" [.ifOption "a" none, .ifOption "b" none, .endIf, .endIf] =
    .error (.nestedConditional "b" "a") := rfl

end Dialogue

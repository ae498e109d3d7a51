import Dialogue.Script.Steps
/-!
# Scripts as trees

The elements of a script are a flat sequence in which two markers open and close a block.  What such
a sequence means is a tree: a clause is a single element or a block with all that it encloses, and a
spliced script is a sequence of clauses of its own.  Blocks enclose no blocks, so the tree has two
levels between one spliced script and the next.

A tree is read without a flag: a block contributes all of its readings or nothing.  The scan of the
flat sequence finds the same steps (`scan_clauses`), whatever follows the sequence.
-/

namespace Dialogue

mutual

/-- An element that is no marker. -/
inductive Piece where
  | step (step : Step)
  | splice (name : String) (body : List Clause)

/-- An element outside of blocks, or a block with the elements that it encloses. -/
inductive Clause where
  | piece (piece : Piece)
  | block (key : String) (allowed : Option (List Json)) (body : List Piece)

end

/-- The element that declares a step. -/
def Step.element (step : Step) : Element :=
  match step.action with
  | .call spec => .call step.name spec
  | .await handler => .await step.name handler
  | .output spec => .output step.name spec

mutual

/-- The element that a piece stands for. -/
def Piece.element : Piece → Element
  | .step step => step.element
  | .splice name body => .splice name (Clause.sequence body)

/-- The elements that pieces stand for. -/
def Piece.sequence : List Piece → List Element
  | [] => []
  | piece :: rest => piece.element :: Piece.sequence rest

/-- The elements that a clause stands for, the markers of a block included. -/
def Clause.elements : Clause → List Element
  | .piece piece => [piece.element]
  | .block key allowed body => .ifOption key allowed :: (Piece.sequence body ++ [.endIf])

/-- The flat sequence of the elements of clauses. -/
def Clause.sequence : List Clause → List Element
  | [] => []
  | clause :: rest => clause.elements ++ Clause.sequence rest

end

/-- A block applies if its option is present and, where values are given, equals one of them. -/
def Applies (options : Options) (key : String) (allowed : Option (List Json)) : Prop :=
  ∃ value, options.get? key = some value ∧
    ∀ values, allowed = some values → ∃ candidate ∈ values, (candidate == value) = true

theorem guardHolds_iff (options : Options) (key : String) (allowed : Option (List Json)) :
    guardHolds options key allowed = true ↔ Applies options key allowed := by
  cases found : options.get? key with
  | none => simp [guardHolds, Applies, found]
  | some value =>
      cases allowed with
      | none => simp [guardHolds, Applies, found]
      | some values => simp [guardHolds, Applies, found]

instance (options : Options) (key : String) (allowed : Option (List Json)) :
    Decidable (Applies options key allowed) :=
  decidable_of_iff _ (guardHolds_iff options key allowed)

mutual

/-- The steps that a piece contributes. -/
def Piece.reading (options : Options) : Piece → List Step
  | .step step => [step]
  | .splice _ body => Clause.readings options body

/-- The steps that pieces contribute, in order. -/
def Piece.readings (options : Options) : List Piece → List Step
  | [] => []
  | piece :: rest => piece.reading options ++ Piece.readings options rest

/-- The steps that a clause contributes: a block all those of its pieces if it applies, and none at
all if it does not. -/
def Clause.reading (options : Options) : Clause → List Step
  | .piece piece => piece.reading options
  | .block key allowed body =>
      if Applies options key allowed then Piece.readings options body else []

/-- The steps that clauses contribute, in order. -/
def Clause.readings (options : Options) : List Clause → List Step
  | [] => []
  | clause :: rest => clause.reading options ++ Clause.readings options rest

end

/-! ### The scan finds the readings -/

/-- The flag of the scan after an element: the end of a block clears it, and a block that does not
apply sets it. -/
def Element.skippingAfter (options : Options) (skipping : Bool) : Element → Bool
  | .ifOption key allowed => skipping || !guardHolds options key allowed
  | .endIf => false
  | _ => skipping

/-- One element of the scan: its steps, unless it is skipped, and then the rest under the new
flag. -/
theorem scan_cons (options : Options) (skipping : Bool) (element : Element)
    (rest : List Element) :
    scanElements options skipping (element :: rest) =
      (if skipping then [] else element.steps options) ++
        scanElements options (element.skippingAfter options skipping) rest := by
  cases element <;> cases skipping <;>
    simp [scanElements, Element.steps, Element.skippingAfter]

@[simp] theorem skippingAfter_piece_element (options : Options) (skipping : Bool)
    (piece : Piece) : piece.element.skippingAfter options skipping = skipping := by
  cases piece with
  | splice name body => rfl
  | step step =>
      obtain ⟨name, action⟩ := step
      cases action <;> rfl

/-- A block that does not apply is passed over up to its end, and no further. -/
theorem scan_skipped_block (options : Options) (body : List Piece) (rest : List Element) :
    scanElements options true (Piece.sequence body ++ .endIf :: rest) =
      scanElements options false rest := by
  induction body with
  | nil => simp [Piece.sequence, scan_cons, Element.skippingAfter]
  | cons piece pieces inductionHypothesis =>
      simpa [Piece.sequence, scan_cons] using inductionHypothesis

mutual

/-- An element that is no marker has the steps of its reading. -/
theorem steps_piece_element (options : Options) :
    ∀ piece : Piece, piece.element.steps options = piece.reading options
  | .step ⟨name, .call spec⟩ => by
      simp [Piece.element, Step.element, Element.steps, Piece.reading]
  | .step ⟨name, .await handler⟩ => by
      simp [Piece.element, Step.element, Element.steps, Piece.reading]
  | .step ⟨name, .output spec⟩ => by
      simp [Piece.element, Step.element, Element.steps, Piece.reading]
  | .splice name body => by
      have scanned := scan_clauses options body []
      simpa [Piece.element, Element.steps, Piece.reading, scanElements] using scanned

/-- Where nothing is skipped, pieces contribute their readings. -/
theorem scan_pieces (options : Options) :
    ∀ (pieces : List Piece) (rest : List Element),
      scanElements options false (Piece.sequence pieces ++ rest) =
        Piece.readings options pieces ++ scanElements options false rest
  | [], rest => by simp [Piece.sequence, Piece.readings]
  | piece :: pieces, rest => by
      simp [Piece.sequence, Piece.readings, scan_cons, steps_piece_element options piece,
        scan_pieces options pieces rest]

/-- The scan of a clause yields its reading and goes on as if it had just begun. -/
theorem scan_clause (options : Options) :
    ∀ (clause : Clause) (rest : List Element),
      scanElements options false (clause.elements ++ rest) =
        clause.reading options ++ scanElements options false rest
  | .piece piece, rest => by
      simp [Clause.elements, Clause.reading, scan_cons, steps_piece_element options piece]
  | .block key allowed body, rest => by
      rw [Clause.elements, List.cons_append, List.append_assoc, Clause.reading]
      by_cases applies : Applies options key allowed
      · have holds := (guardHolds_iff options key allowed).mpr applies
        simp [scan_cons, Element.steps, Element.skippingAfter, holds, applies,
          scan_pieces options body]
      · have fails : guardHolds options key allowed = false := by
          simpa [← guardHolds_iff] using applies
        simp [scan_cons, Element.steps, Element.skippingAfter, fails, applies,
          scan_skipped_block]

/-- The scan of clauses yields their readings in order and goes on as if it had just begun. -/
theorem scan_clauses (options : Options) :
    ∀ (clauses : List Clause) (rest : List Element),
      scanElements options false (Clause.sequence clauses ++ rest) =
        Clause.readings options clauses ++ scanElements options false rest
  | [], rest => by simp [Clause.sequence, Clause.readings]
  | clause :: clauses, rest => by
      rw [Clause.sequence, List.append_assoc, scan_clause options clause,
        scan_clauses options clauses rest, Clause.readings, List.append_assoc]

end

/-- A script whose elements are those of some clauses has the steps of their readings. -/
theorem steps_eq_readings_of_sequence {script : Script} {clauses : List Clause}
    (sequence : Clause.sequence clauses = script.elements) (options : Options) :
    script.steps options = Clause.readings options clauses := by
  have scanned := scan_clauses options clauses []
  rw [List.append_nil, sequence] at scanned
  simpa [Script.steps, scanElements] using scanned

end Dialogue

import Dialogue.Proofs.Script.Clause
import Dialogue.Protocol.Catalog
/-!
# What compiling a built script means

Building accepts a sequence of elements only if its blocks are closed and do not nest.  Such a
sequence is the flat form of clauses, and the same holds of every script that is spliced into it,
at any depth.  Compiling a built script is therefore reading it as a tree.
-/

namespace Dialogue

/-- A script that building accepted, with only such scripts spliced into it. -/
inductive Script.Built : Script → Prop where
  | build {name : String} {elements : List Element} {script : Script}
      (accepted : Script.build name elements = .ok script)
      (parts : ∀ part : Script, part.spliced ∈ elements → Script.Built part) :
      Script.Built script

namespace BlockCheck

/-- A noted violation stays, whatever is read after it. -/
theorem violation_read {check : BlockCheck} {error : ScriptError}
    (violated : check.violation = some error) (element : Element) :
    (check.read element).violation = some error := by
  cases element with
  | ifOption key allowed => cases found : check.openKey <;> simp [read, note, found, violated]
  | endIf => cases found : check.openKey <;> simp [read, note, found, violated]
  | call => exact violated
  | await => exact violated
  | output => exact violated
  | splice => exact violated

/-- A noted violation is the verdict, whatever is read after it. -/
theorem verdict_of_violation {check : BlockCheck} {error : ScriptError}
    (violated : check.violation = some error) (elements : List Element) :
    (elements.foldl read check).verdict = .error error := by
  induction elements generalizing check with
  | nil => simp [verdict, violated]
  | cons element rest inductionHypothesis =>
      exact inductionHypothesis (violation_read violated element)

/-- An accepted sequence leaves no block open. -/
theorem openKey_of_verdict_ok {check : BlockCheck} (accepted : check.verdict = .ok ()) :
    check.openKey = none := by
  rw [verdict] at accepted
  cases violated : check.violation <;> cases opened : check.openKey <;>
    simp [violated, opened] at accepted ⊢

end BlockCheck

/-- The sequence is the flat form of clauses; inside a block, that of the rest of the block, its
end, and clauses. -/
def Splits (openKey : Option String) (elements : List Element) : Prop :=
  match openKey with
  | none => ∃ clauses, Clause.sequence clauses = elements
  | some _ =>
      ∃ pieces clauses, Piece.sequence pieces ++ .endIf :: Clause.sequence clauses = elements

/-- A piece in front of a sequence belongs to the open block, or is a clause of its own. -/
theorem Splits.cons_piece {openKey : Option String} {elements : List Element}
    (splits : Splits openKey elements) (piece : Piece) :
    Splits openKey (piece.element :: elements) := by
  cases openKey with
  | none =>
      obtain ⟨clauses, rfl⟩ := splits
      exact ⟨.piece piece :: clauses, rfl⟩
  | some key =>
      obtain ⟨pieces, clauses, rfl⟩ := splits
      exact ⟨piece :: pieces, clauses, rfl⟩

/-- A sequence whose verdict is good splits into clauses if the scripts in it do. -/
theorem splits_of_verdict_ok {elements : List Element} {openKey : Option String}
    (accepted : (elements.foldl BlockCheck.read ⟨openKey, none⟩).verdict = .ok ())
    (parts : ∀ part : Script, part.spliced ∈ elements →
      ∃ clauses, Clause.sequence clauses = part.elements) :
    Splits openKey elements := by
  induction elements generalizing openKey with
  | nil =>
      obtain rfl : openKey = none := BlockCheck.openKey_of_verdict_ok accepted
      exact ⟨[], rfl⟩
  | cons element rest inductionHypothesis =>
      rw [List.foldl_cons] at accepted
      have later : ∀ part : Script, part.spliced ∈ rest →
          ∃ clauses, Clause.sequence clauses = part.elements :=
        fun part member => parts part (List.mem_cons_of_mem element member)
      cases element with
      | call name spec =>
          exact (inductionHypothesis accepted later).cons_piece (.step ⟨name, .call spec⟩)
      | await name handler =>
          exact (inductionHypothesis accepted later).cons_piece (.step ⟨name, .await handler⟩)
      | output name spec =>
          exact (inductionHypothesis accepted later).cons_piece (.step ⟨name, .output spec⟩)
      | splice name body =>
          obtain ⟨clauses, inner⟩ := parts ⟨name, body⟩ List.mem_cons_self
          have split := (inductionHypothesis accepted later).cons_piece (.splice name clauses)
          rwa [Piece.element, inner] at split
      | ifOption key allowed =>
          cases openKey with
          | none =>
              have inside : Splits (some key) rest := inductionHypothesis accepted later
              obtain ⟨pieces, clauses, split⟩ := inside
              refine ⟨.block key allowed pieces :: clauses, ?_⟩
              simp [Clause.sequence, Clause.elements, ← split]
          | some outer =>
              -- The nested block was noted as a violation, so the verdict cannot be good.
              have violated :
                  (BlockCheck.read ⟨some outer, none⟩ (.ifOption key allowed)).violation =
                    some (.nestedConditional key outer) := rfl
              rw [BlockCheck.verdict_of_violation violated rest] at accepted
              cases accepted
      | endIf =>
          cases openKey with
          | none =>
              have violated : (BlockCheck.read ⟨none, none⟩ .endIf).violation =
                  some .unbalancedEndIf := rfl
              rw [BlockCheck.verdict_of_violation violated rest] at accepted
              cases accepted
          | some outer =>
              have outside : Splits none rest := inductionHypothesis accepted later
              obtain ⟨clauses, rfl⟩ := outside
              exact ⟨[], clauses, rfl⟩

/-- Building leaves the elements as they were given, and their verdict is good. -/
theorem build_eq_ok {name : String} {elements : List Element} {script : Script}
    (accepted : Script.build name elements = .ok script) :
    (elements.foldl BlockCheck.read .start).verdict = .ok () ∧ script = ⟨name, elements⟩ := by
  rw [Script.build] at accepted
  cases verdict : (elements.foldl BlockCheck.read .start).verdict with
  | error error => simp [verdict, bind, Except.bind] at accepted
  | ok =>
      simp only [verdict, bind, Except.bind, pure, Except.pure, Except.ok.injEq] at accepted
      exact ⟨rfl, accepted.symm⟩

/-- A built script is the flat form of clauses. -/
theorem Script.Built.exists_clauses {script : Script} (built : script.Built) :
    ∃ clauses, Clause.sequence clauses = script.elements := by
  induction built with
  | build accepted _ inductionHypothesis =>
      obtain ⟨verdict, rfl⟩ := build_eq_ok accepted
      exact splits_of_verdict_ok verdict inductionHypothesis

/-- No other script than the one that loads content is spliced into a built-in script. -/
theorem eq_navigate_of_spliced {script part : Script} (member : script ∈ Protocol.catalog)
    (spliced : part.spliced ∈ script.elements) : part = Protocol.navigate := by
  obtain ⟨name, elements⟩ := part
  simp only [Protocol.catalog, List.mem_cons, List.not_mem_nil, or_false] at member
  rcases member with rfl | rfl | rfl | rfl | rfl | rfl
  case inr.inr.inl | inr.inr.inr.inl =>
    simp [Protocol.printToPdf, Protocol.captureScreenshot, Script.spliced, Element.awaitResponse,
      Element.outputOne] at spliced
    obtain ⟨rfl, rfl⟩ := spliced
    rfl
  all_goals
    simp [Protocol.spawnSession, Protocol.navigate, Protocol.resetSession, Protocol.closeSession,
      Script.spliced, Element.awaitResponse, Element.awaitNotification, Element.outputOne,
      Element.outputMany] at spliced

/-- The built-in scripts are built. -/
theorem built_of_mem_catalog {script : Script} (member : script ∈ Protocol.catalog) :
    script.Built := by
  have accepted : ∀ script ∈ Protocol.catalog,
      Script.build script.name script.elements = .ok script := by
    simp only [Protocol.catalog, List.forall_mem_cons]
    exact ⟨rfl, rfl, rfl, rfl, rfl, rfl, by simp⟩
  have loads : Protocol.navigate ∈ Protocol.catalog := by simp [Protocol.catalog]
  have navigateBuilt : Protocol.navigate.Built := by
    refine .build (accepted Protocol.navigate loads) ?_
    simp [Protocol.navigate, Script.spliced, Element.awaitResponse, Element.awaitNotification]
  refine .build (accepted script member) fun part spliced => ?_
  rw [eq_navigate_of_spliced member spliced]
  exact navigateBuilt

/-- Compiling is reading the tree.  A built script is the flat form of clauses, and whichever
clauses these are, compiling against any options yields exactly their readings.  Nothing that is
skipped leaves a trace: a scan that goes on after the script goes on as if it had just begun. -/
theorem steps_eq_readings {script : Script} (built : script.Built) :
    (∃ clauses, Clause.sequence clauses = script.elements) ∧
      ∀ clauses, Clause.sequence clauses = script.elements → ∀ options : Options,
        script.steps options = Clause.readings options clauses ∧
          ∀ rest, scanElements options false (script.elements ++ rest) =
            Clause.readings options clauses ++ scanElements options false rest := by
  refine ⟨built.exists_clauses, fun clauses sequence options => ⟨?_, fun rest => ?_⟩⟩
  · exact steps_eq_readings_of_sequence sequence options
  · rw [← sequence]
    exact scan_clauses options clauses rest

/-- Printing under options that ask for a cookie and an address: of the blocks in the spliced script
two apply, and what comes after it is as it would be without it. -/
theorem printToPdf_steps_eq_readings :
    Protocol.printToPdf.Built ∧
      ∃ clauses, Clause.sequence clauses = Protocol.printToPdf.elements ∧
        (Clause.readings (.ofList [("source_type", .str "url"), ("cookie", .null)]) clauses).map
            Step.name =
          ["set_cookie", "cookie_set", "navigate", "navigated", "frame_stopped_loading",
            "print_to_pdf", "printed", "data"] := by
  have built : Protocol.printToPdf.Built := built_of_mem_catalog (by simp [Protocol.catalog])
  obtain ⟨⟨clauses, sequence⟩, reading⟩ := steps_eq_readings built
  refine ⟨built, clauses, sequence, ?_⟩
  rw [← (reading clauses sequence _).1]
  decide

end Dialogue

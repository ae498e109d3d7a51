import Dialogue.Proofs.Offer
import Dialogue.Proofs.Script.Clause
import Dialogue.Protocol.Catalog
/-!
# Steps that wait for the responses to their calls

A step that waits for a response relies on a call before it, and on nothing but calls having written
the id of the last one.  Steps that respect both are `Correlated`.  Whether those of a script are,
whatever its options, can be read off its elements: a call counts for what follows up to the next
border of a block, since the blocks around it may be skipped.
-/

namespace Dialogue

/-! ### Correlated steps -/

/-- The fields that a step extracts. -/
def Step.fields (step : Step) : List KeySpec :=
  match step.action with
  | .await handler => handler.fields
  | .call _ => []
  | .output _ => []

def Step.IsCall (step : Step) : Prop :=
  ∃ spec, step.action = .call spec

def Step.AwaitsResponse (step : Step) : Prop :=
  ∃ handler, step.action = .await (.response handler)

/-- A call comes before every step that waits for a response: one of these steps, or, if `called`
says so, one before all of them. -/
def CallsPrecede (called : Prop) (steps : List Step) : Prop :=
  ∀ before step after, steps = before ++ step :: after → step.AwaitsResponse →
    called ∨ ∃ earlier ∈ before, earlier.IsCall

/-- No step extracts into the key of the last call's id. -/
def SpareCallId (steps : List Step) : Prop :=
  ∀ step ∈ steps, ∀ spec ∈ step.fields, spec.key ≠ lastCallIdKey

/-- The steps leave it to calls to say which response is awaited. -/
structure Correlated (steps : List Step) : Prop where
  callsPrecede : CallsPrecede False steps
  spareCallId : SpareCallId steps

namespace CallsPrecede

variable {called : Prop} {step : Step} {rest : List Step}

theorem nil (called : Prop) : CallsPrecede called [] := by
  intro before step after split
  simp at split

/-- A call in front is enough for all that follows. -/
theorem cons_call (called : Prop) (call : step.IsCall) (rest : List Step) :
    CallsPrecede called (step :: rest) := by
  intro before awaiting after split awaits
  cases before with
  | nil =>
      obtain ⟨rfl, rfl⟩ := List.cons.inj split
      obtain ⟨spec, calls⟩ := call
      obtain ⟨handler, awaited⟩ := awaits
      rw [calls] at awaited
      cases awaited
  | cons first others =>
      obtain ⟨rfl, _⟩ := List.cons.inj split
      exact .inr ⟨step, List.mem_cons_self, call⟩

/-- A step in front that waits for no response needs no call before it. -/
theorem cons_of_not_awaits (quiet : ¬step.AwaitsResponse) (precede : CallsPrecede called rest) :
    CallsPrecede called (step :: rest) := by
  intro before awaiting after split awaits
  cases before with
  | nil =>
      obtain ⟨rfl, rfl⟩ := List.cons.inj split
      exact absurd awaits quiet
  | cons first others =>
      obtain ⟨rfl, tail⟩ := List.cons.inj split
      rcases precede others awaiting after tail awaits with before | ⟨earlier, member, call⟩
      · exact .inl before
      · exact .inr ⟨earlier, List.mem_cons_of_mem step member, call⟩

/-- After a call everything is preceded by one. -/
theorem of_called (holds : called) (steps : List Step) : CallsPrecede called steps :=
  fun _ _ _ _ _ => .inl holds

theorem mono {later : Prop} (implies : called → later) {steps : List Step}
    (precede : CallsPrecede called steps) : CallsPrecede later steps :=
  fun before step after split awaits => (precede before step after split awaits).imp_left implies

/-- Behind other steps, the calls among those count too. -/
theorem append {first second : List Step} (one : CallsPrecede called first)
    (two : CallsPrecede (called ∨ ∃ step ∈ first, step.IsCall) second) :
    CallsPrecede called (first ++ second) := by
  intro before awaiting after split awaits
  rcases List.append_eq_append_iff.mp split with ⟨middle, rfl, inSecond⟩ | ⟨middle, rfl, shared⟩
  · rcases two middle awaiting after inSecond awaits with
      (holds | ⟨earlier, member, call⟩) | ⟨earlier, member, call⟩
    · exact .inl holds
    · exact .inr ⟨earlier, List.mem_append_left middle member, call⟩
    · exact .inr ⟨earlier, List.mem_append_right first member, call⟩
  · cases middle with
    | nil =>
        have bare : second = [] ++ awaiting :: after := by simpa using shared.symm
        rcases two [] awaiting after bare awaits with (holds | found) | ⟨earlier, member, _⟩
        · exact .inl holds
        · exact .inr (by simpa using found)
        · simp at member
    | cons step others =>
        obtain ⟨rfl, _⟩ := List.cons.inj shared
        exact one before awaiting others rfl awaits

/-- If the first step waits for a response, the call is one before all of these steps. -/
theorem called_of_awaits (precede : CallsPrecede called (step :: rest))
    (awaits : step.AwaitsResponse) : called := by
  rcases precede [] step rest rfl awaits with holds | ⟨earlier, member, _⟩
  · exact holds
  · cases member

/-- What is preceded by calls after a step that is none was so before it. -/
theorem tail (precede : CallsPrecede called (step :: rest)) (other : ¬step.IsCall) :
    CallsPrecede called rest := by
  intro before awaiting after split awaits
  rcases precede (step :: before) awaiting after (by rw [split, List.cons_append]) awaits with
    holds | ⟨earlier, member, call⟩
  · exact .inl holds
  · rcases List.mem_cons.mp member with rfl | member
    · exact absurd call other
    · exact .inr ⟨earlier, member, call⟩

end CallsPrecede

namespace SpareCallId

theorem append {first second : List Step} (one : SpareCallId first) (two : SpareCallId second) :
    SpareCallId (first ++ second) := by
  intro step member
  rcases List.mem_append.mp member with inFirst | inSecond
  · exact one step inFirst
  · exact two step inSecond

end SpareCallId

/-! ### Correlated whatever the options -/

/-- Whether a call is known to come before what follows an element.  At the borders of a block
nothing is known: the calls before may have been skipped, and so may those inside. -/
def Element.calledAfter (called : Bool) : Element → Bool
  | .call _ _ => true
  | .ifOption _ _ => false
  | .endIf => false
  | _ => called

mutual

/-- Whether an element and the scripts in it wait for responses only after calls. -/
def Element.waitsCalled (called : Bool) : Element → Bool
  | .await _ (.response _) => called
  | .splice _ body => waitCalled called body
  | _ => true

/-- Whether, under all options, a call comes before every element that waits for a response. -/
def waitCalled (called : Bool) : List Element → Bool
  | [] => true
  | element :: rest => element.waitsCalled called && waitCalled (element.calledAfter called) rest

end

mutual

/-- Whether an element and the scripts in it leave the key of the last call's id alone. -/
def Element.sparesCallId : Element → Bool
  | .await _ handler => handler.fields.all fun spec => spec.key != lastCallIdKey
  | .splice _ body => elementsSpareCallId body
  | _ => true

def elementsSpareCallId : List Element → Bool
  | [] => true
  | element :: rest => element.sparesCallId && elementsSpareCallId rest

end

/-- What is known to be called after an element was called before it, or by it. -/
theorem called_of_calledAfter (options : Options) (element : Element) (called skipping : Bool)
    (after : element.calledAfter called = true ∧
      element.skippingAfter options skipping = false) :
    (called = true ∧ skipping = false) ∨
      ∃ step ∈ (if skipping then [] else element.steps options), step.IsCall := by
  obtain ⟨known, applied⟩ := after
  cases element with
  | call name spec =>
      obtain rfl : skipping = false := applied
      exact .inr ⟨⟨name, .call spec⟩, by simp [Element.steps], ⟨spec, rfl⟩⟩
  | await => exact .inl ⟨known, applied⟩
  | output => exact .inl ⟨known, applied⟩
  | splice => exact .inl ⟨known, applied⟩
  | ifOption => cases known
  | endIf => cases known

mutual

theorem callsPrecede_steps (options : Options) :
    ∀ (element : Element) (called : Bool), element.waitsCalled called = true →
      CallsPrecede (called = true) (element.steps options)
  | .call name spec, called, _ => .cons_call _ ⟨spec, rfl⟩ _
  | .await name (.response handler), called, checked => .of_called checked _
  | .await name (.notification handler), called, _ =>
      .cons_of_not_awaits (by simp [Step.AwaitsResponse]) (.nil _)
  | .output name spec, called, _ => .cons_of_not_awaits (by simp [Step.AwaitsResponse]) (.nil _)
  | .ifOption key allowed, called, _ => .nil _
  | .endIf, called, _ => .nil _
  | .splice name body, called, checked => by
      simpa [Element.steps] using callsPrecede_scan options body called false checked

/-- The steps of elements that are checked wait only after calls, whatever is skipped. -/
theorem callsPrecede_scan (options : Options) :
    ∀ (elements : List Element) (called skipping : Bool), waitCalled called elements = true →
      CallsPrecede (called = true ∧ skipping = false) (scanElements options skipping elements)
  | [], called, skipping, _ => by
      rw [scanElements]
      exact .nil _
  | element :: rest, called, skipping, checked => by
      rw [waitCalled, Bool.and_eq_true] at checked
      obtain ⟨head, tail⟩ := checked
      have first := callsPrecede_steps options element called head
      have second := callsPrecede_scan options rest (element.calledAfter called)
        (element.skippingAfter options skipping) tail
      rw [scan_cons]
      refine .append ?_ (second.mono (called_of_calledAfter options element called skipping))
      cases skipping with
      | false => simpa using first
      | true => exact .nil _

end

mutual

theorem spareCallId_steps (options : Options) :
    ∀ element : Element, element.sparesCallId = true → SpareCallId (element.steps options)
  | .await name handler, checked => by
      intro step member spec extracted
      rw [Element.steps, List.mem_singleton] at member
      subst member
      have different := List.all_eq_true.mp checked spec extracted
      simpa using different
  | .splice name body, checked => by
      simpa [Element.steps] using spareCallId_scan options body false checked
  | .call name spec, _ => by simp [Element.steps, SpareCallId, Step.fields]
  | .output name spec, _ => by simp [Element.steps, SpareCallId, Step.fields]
  | .ifOption key allowed, _ => by simp [Element.steps, SpareCallId]
  | .endIf, _ => by simp [Element.steps, SpareCallId]

/-- The steps of elements that are checked leave the key of the last call's id alone. -/
theorem spareCallId_scan (options : Options) :
    ∀ (elements : List Element) (skipping : Bool), elementsSpareCallId elements = true →
      SpareCallId (scanElements options skipping elements)
  | [], skipping, _ => by simp [scanElements, SpareCallId]
  | element :: rest, skipping, checked => by
      rw [elementsSpareCallId, Bool.and_eq_true] at checked
      have first := spareCallId_steps options element checked.1
      have second := spareCallId_scan options rest (element.skippingAfter options skipping)
        checked.2
      rw [scan_cons]
      refine .append ?_ second
      cases skipping with
      | false => simpa using first
      | true => simp [SpareCallId]

end

/-- The built-in scripts are correlated, whatever their options say. -/
theorem correlated_of_mem_catalog {script : Script} (member : script ∈ Protocol.catalog)
    (options : Options) : Correlated (script.steps options) := by
  have checked : ∀ script ∈ Protocol.catalog,
      waitCalled false script.elements = true ∧ elementsSpareCallId script.elements = true := by
    decide
  obtain ⟨waits, spares⟩ := checked script member
  exact
    { callsPrecede := (callsPrecede_scan options script.elements false false waits).mono (by simp)
      spareCallId := spareCallId_scan options script.elements false spares }

end Dialogue

import Dialogue.Proofs.Comparison
import Dialogue.Proofs.Gathering
/-!
# Extraction and comparison

An extraction carries values from the paths of a payload to keys of the state; a comparison holds the
keys of the state against the paths of a payload.  They are written apart and read the same
specifier in opposite directions, and they fit together: what was extracted agrees with the payload
that it came from, and what agrees with a payload can be extracted from it without changing a value.

A value that is extracted in place of an equal one need not be the same one, since the two zeros
among the doubles are equal.  What such an extraction leaves is therefore equal to what was
there, at every key.
-/

namespace Dialogue

open KeySpec

variable {state next : State} {payload : Json} {context : String} {spec : KeySpec}
  {specs : List KeySpec}

/-- The last specifier with its flat key agrees with what it was extracted from. -/
theorem agrees_of_extracted (extracted : extractFields state payload context specs = .ok next)
    (last : lastFor? spec.key specs = some spec) : spec.Agrees next payload := by
  obtain ⟨complete, _⟩ := extractFields_eq_ok_iff.mp extracted
  obtain ⟨value, found⟩ :=
    Option.isSome_iff_exists.mp (complete spec (of_lastFor?_eq_some last).1)
  have written := get?_of_extractFields extracted spec.key
  rw [last] at written
  exact ⟨value, value, written.trans found, found, Json.equal_self value⟩

/-- What agrees with a payload can be extracted from it. -/
theorem extractFields_of_agrees (agree : ∀ spec ∈ specs, spec.Agrees state payload)
    (context : String) :
    extractFields state payload context specs =
      .ok (state.setAll (gathered payload.at? specs)) := by
  refine extractFields_eq_ok_iff.mpr ⟨fun spec member => ?_, rfl⟩
  obtain ⟨_, actual, _, found, _⟩ := agree spec member
  rw [found]
  rfl

/-- Extracting what agrees leaves equal values. -/
theorem get?_of_extracted_agreeing (agree : ∀ spec ∈ specs, spec.Agrees state payload)
    (extracted : extractFields state payload context specs = .ok next) (key : String) :
    (next.get? key == state.get? key) = true := by
  rw [get?_of_extractFields extracted]
  cases last : lastFor? key specs with
  | none =>
      cases known : state.get? key with
      | none => rfl
      | some value => exact Json.equal_self value
  | some spec =>
      obtain ⟨member, rfl⟩ := of_lastFor?_eq_some last
      obtain ⟨expected, actual, known, found, same⟩ := agree spec member
      rw [known]
      simpa [found] using same

/-- Extraction makes a comparison succeed, and a comparison that succeeds makes extraction
immaterial.  For every state, payload and list of specifiers: if no two of them share a flat key and
the extraction succeeds, the state that it leaves agrees with the payload on any of them in any
order; and if the state agrees with the payload on all of them, the extraction succeeds and leaves
at every key a value that is equal to what was there, or none if there was none. -/
theorem extraction_inverts_comparison (state : State) (payload : Json) (context : String)
    (specs : List KeySpec) :
    ((specs.map KeySpec.key).Nodup →
      ∀ next, extractFields state payload context specs = .ok next →
        ∀ selected, selected ⊆ specs → fieldsMatch next payload selected = .ok true) ∧
    (fieldsMatch state payload specs = .ok true →
      ∃ next, extractFields state payload context specs = .ok next ∧
        ∀ key, (next.get? key == state.get? key) = true) := by
  constructor
  · intro once next extracted selected among
    refine fieldsMatch_eq_true_iff.mpr fun spec member => ?_
    exact agrees_of_extracted extracted (lastFor?_of_mem once (among member))
  · intro agreed
    have agree := fieldsMatch_eq_true_iff.mp agreed
    have extracted := extractFields_of_agrees agree context
    exact ⟨_, extracted, get?_of_extracted_agreeing agree extracted⟩

/-- A page at one of the two zeros. -/
def scrolledTo (negative : Bool) : Json :=
  .num (.double (.zero negative))

/-- What the answer about frames gave agrees with it, also if only some of it is asked for.  A page
that has been scrolled back to the other zero agrees with the state too, and extracting where it is
replaces the value by an equal one. -/
theorem scrolled_back_page_agrees :
    (∃ next, extractFields .empty framesAnswer "result" framesFields = .ok next ∧
      fieldsMatch next framesAnswer
        [.mapped "answer" [], .mapped "frameId" ["frameTree", "frame", "id"]] = .ok true) ∧
    ∃ next, extractFields (State.empty.insert "scrollX" (scrolledTo false))
        (.object [("scrollX", scrolledTo true)]) "result" [.bare "scrollX"] = .ok next ∧
      ∀ key, (next.get? key ==
        (State.empty.insert "scrollX" (scrolledTo false)).get? key) = true := by
  obtain ⟨agrees, _⟩ :=
    extraction_inverts_comparison .empty framesAnswer "result" framesFields
  obtain ⟨_, equal⟩ := extraction_inverts_comparison
    (State.empty.insert "scrollX" (scrolledTo false)) (.object [("scrollX", scrolledTo true)])
    "result" [.bare "scrollX"]
  refine ⟨⟨_, rfl, agrees (by decide) _ rfl _ ?_⟩, equal rfl⟩
  simp [framesFields]

end Dialogue

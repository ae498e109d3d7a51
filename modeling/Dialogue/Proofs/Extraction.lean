import Dialogue.Proofs.Comparison
import Dialogue.Proofs.Gathering
import Dialogue.Proofs.Path
/-!
# What specifiers read and write

Specifiers are worked off one after the other, whether they collect parameters from the state,
compare a payload with it or extract fields of a payload into it.  An extraction writes nothing but
the flat keys of its specifiers: every other key keeps its value, whatever the payload holds.
-/

namespace Dialogue

/-- The first specifier of a successful extraction found its value, and the others were extracted
into the state that it left. -/
theorem extractFields_cons_inv {state next : State} {payload : Json} {context : String}
    {spec : KeySpec} {rest : List KeySpec}
    (extracted : extractFields state payload context (spec :: rest) = .ok next) :
    ∃ value, payload.at? spec.path = some value ∧
      extractFields (state.insert spec.key value) payload context rest = .ok next := by
  rw [extractFields] at extracted
  cases found : payload.at? spec.path with
  | none => simp [found] at extracted
  | some value => exact ⟨value, rfl, by simpa [found] using extracted⟩

/-- If the fields agree, the first specifier's value is there on both sides and is the same, and the
others agree too. -/
theorem fieldsMatch_cons_inv {state : State} {params : Json} {spec : KeySpec} {rest : List KeySpec}
    (agree : fieldsMatch state params (spec :: rest) = .ok true) :
    ∃ expected actual, state.get? spec.key = some expected ∧ params.at? spec.path = some actual ∧
      (actual == expected) = true ∧ fieldsMatch state params rest = .ok true := by
  obtain ⟨⟨expected, actual, known, found, same⟩, others⟩ :=
    List.forall_mem_cons.mp (fieldsMatch_eq_true_iff.mp agree)
  exact ⟨expected, actual, known, found, same, fieldsMatch_eq_true_iff.mpr others⟩

/-- Resolved parameters are what the source yields, over the defaults. -/
theorem resolveParams_eq_ok {state : State} {source : ParamSource} {defaults params : Table Json}
    (resolved : resolveParams state source defaults = .ok params) :
    ∃ yielded, source.resolve state = .ok yielded ∧ params = defaults.overlay yielded := by
  rw [resolveParams] at resolved
  cases found : source.resolve state with
  | error cause => simp [found, bind, Except.bind] at resolved
  | ok yielded =>
      simp only [found, bind, Except.bind, pure, Except.pure, Except.ok.injEq] at resolved
      exact ⟨yielded, rfl, resolved.symm⟩

/-- Parameters are refused where the source refuses to yield them. -/
theorem resolveParams_eq_error_iff {state : State} {source : ParamSource} {defaults : Table Json}
    {cause : ScriptError} :
    resolveParams state source defaults = .error cause ↔ source.resolve state = .error cause := by
  rw [resolveParams]
  cases source.resolve state <;> simp [bind, Except.bind, pure, Except.pure]

/-- The first specifier of collected parameters found its value in the state, and the others were
collected after it. -/
theorem collectParams_cons_inv {state : State} {found params : Table Json} {spec : KeySpec}
    {rest : List KeySpec} (collected : collectParams state found (spec :: rest) = .ok params) :
    ∃ value, state.at? spec.path = some value ∧
      collectParams state (found.insert spec.key value) rest = .ok params := by
  rw [collectParams, State.fetchAt] at collected
  cases known : state.at? spec.path with
  | none => simp [known, bind, Except.bind] at collected
  | some value => exact ⟨value, rfl, by simpa [known, bind, Except.bind] using collected⟩

/-! ### What is missing -/

/-- An extraction fails only for a path that the payload lacks. -/
theorem exists_spec_of_extractFields_error {state : State} {payload : Json} {context : String}
    {specs : List KeySpec} {cause : ScriptError}
    (refused : extractFields state payload context specs = .error cause) :
    ∃ spec ∈ specs, cause = .missingPath spec.path context := by
  obtain ⟨spec, first, named⟩ := extractFields_eq_error_iff.mp refused
  exact ⟨spec, (KeySpec.of_firstMissing?_eq_some first).1, named⟩

/-- A comparison fails only for a key that the state lacks. -/
theorem exists_spec_of_fieldsMatch_error {state : State} {params : Json} {specs : List KeySpec}
    {cause : ScriptError} (refused : fieldsMatch state params specs = .error cause) :
    ∃ spec ∈ specs, state.get? spec.key = none ∧ cause = .missingKey spec.key := by
  obtain ⟨before, spec, after, split, _, unknown, named⟩ := fieldsMatch_eq_error_iff.mp refused
  have member : spec ∈ specs := split ▸ List.mem_append_right before List.mem_cons_self
  exact ⟨spec, member, unknown, named⟩

/-- Parameters cannot be collected only for a path that the state lacks. -/
theorem exists_spec_of_collectParams_error {state : State} {found : Table Json}
    {specs : List KeySpec} {cause : ScriptError}
    (refused : collectParams state found specs = .error cause) :
    ∃ spec ∈ specs, state.at? spec.path = none ∧ cause = .missingPath spec.path "state" := by
  obtain ⟨spec, first, named⟩ := collectParams_eq_error_iff.mp refused
  obtain ⟨member, missing⟩ := KeySpec.of_firstMissing?_eq_some first
  exact ⟨spec, member, missing, named⟩

/-- A key that is missing after an extraction was missing before it and is none that was
extracted. -/
theorem get?_eq_none_of_extractFields {state next : State} {payload : Json} {context : String}
    {specs : List KeySpec} {key : String}
    (extracted : extractFields state payload context specs = .ok next)
    (missing : next.get? key = none) :
    state.get? key = none ∧ ∀ spec ∈ specs, spec.key ≠ key := by
  rw [get?_of_extractFields extracted] at missing
  cases last : KeySpec.lastFor? key specs with
  | none =>
      rw [last] at missing
      exact ⟨missing, KeySpec.lastFor?_eq_none_iff.mp last⟩
  | some spec =>
      have found := (extractFields_eq_ok_iff.mp extracted).1 spec
        (KeySpec.of_lastFor?_eq_some last).1
      have lacking : payload.at? spec.path = none := by
        rw [last] at missing
        exact missing
      rw [lacking] at found
      cases found

/-! ### What a result holds -/

/-- What is found below a key of a result is found in a result that is there. -/
theorem exists_result_of_at? {result : Option Json} {key : String} {rest : List String}
    {value : Json} (found : (result.getD (.obj .empty)).at? (key :: rest) = some value) :
    ∃ payload, result = some payload ∧ payload.at? (key :: rest) = some value := by
  cases result with
  | none => simp [Json.at?_cons, Json.step?] at found
  | some payload => exact ⟨payload, rfl, found⟩

/-- Extraction leaves every other key as it was. -/
theorem get?_extractFields_of_not_written {state next : State} {payload : Json} {context : String}
    {specs : List KeySpec} {key : String}
    (extracted : extractFields state payload context specs = .ok next)
    (unwritten : ∀ spec ∈ specs, spec.key ≠ key) : next.get? key = state.get? key := by
  rw [get?_of_extractFields extracted, KeySpec.lastFor?_eq_none_iff.mpr unwritten]

/-- A key that is written has the value at the path of one of the specifiers that write it. -/
theorem exists_spec_of_extractFields_written {state next : State} {payload : Json}
    {context : String} {specs : List KeySpec} {key : String}
    (extracted : extractFields state payload context specs = .ok next)
    (written : ∃ spec ∈ specs, spec.key = key) :
    ∃ spec ∈ specs, spec.key = key ∧
      ∃ value, payload.at? spec.path = some value ∧ next.get? key = some value := by
  cases last : KeySpec.lastFor? key specs with
  | none =>
      obtain ⟨spec, member, same⟩ := written
      exact absurd same (KeySpec.lastFor?_eq_none_iff.mp last spec member)
  | some spec =>
      obtain ⟨member, same⟩ := KeySpec.of_lastFor?_eq_some last
      have complete := (extractFields_eq_ok_iff.mp extracted).1 spec member
      obtain ⟨value, found⟩ := Option.isSome_iff_exists.mp complete
      refine ⟨spec, member, same, value, found, ?_⟩
      rw [get?_of_extractFields extracted, last]
      exact found

/-- The session stays the same when another key is written. -/
theorem State.sessionId?_insert_of_ne {state : State} {key : String} {value : Json}
    (other : sessionIdKey ≠ key) : (state.insert key value).sessionId? = state.sessionId? := by
  rw [State.sessionId?, State.sessionId?, State.get?_insert, if_neg other]

/-- The id of the last call survives an extraction that does not write it. -/
theorem lastCallId?_extractFields {state next : State} {payload : Json} {context : String}
    {specs : List KeySpec}
    (extracted : extractFields state payload context specs = .ok next)
    (unwritten : ∀ spec ∈ specs, spec.key ≠ lastCallIdKey) :
    next.lastCallId? = state.lastCallId? := by
  rw [State.lastCallId?, State.lastCallId?, get?_extractFields_of_not_written extracted unwritten]

end Dialogue

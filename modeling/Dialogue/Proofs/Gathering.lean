import Dialogue.KeySpec
import Dialogue.Proofs.Table.Insertion
/-!
# What specifiers gather

Specifiers are read from something that has values at paths, a payload or the state, and enter what
they find there under their flat keys.  Whether they find it does not depend on what was entered
before, so collecting parameters and extracting fields come to the same: either some path leads
nowhere, and then the first such path is the error, or all values are found, and then they are
entered one after the other.  Of the specifiers that share a flat key the last one counts.

For an extraction this says all: which state it leaves, that it may be repeated, and that the
order of specifiers with different flat keys is immaterial unless it is asked which path is missing.
-/

namespace Dialogue

namespace KeySpec

/-- The last specifier with a flat key. -/
def lastFor? (key : String) (specs : List KeySpec) : Option KeySpec :=
  specs.reverse.find? fun spec => spec.key = key

/-- The first specifier at whose path nothing is found. -/
def firstMissing? (find : List String → Option Json) (specs : List KeySpec) : Option KeySpec :=
  specs.find? fun spec => (find spec.path).isNone

/-- What is found at the paths, under the flat keys. -/
def gathered (find : List String → Option Json) (specs : List KeySpec) : List (String × Json) :=
  specs.filterMap fun spec => (find spec.path).map fun value => (spec.key, value)

variable {find : List String → Option Json} {spec : KeySpec} {rest specs : List KeySpec}
  {key : String} {value : Json}

/-! ### One specifier after the other -/

theorem firstMissing?_cons_of_missing (missing : find spec.path = none) :
    firstMissing? find (spec :: rest) = some spec := by
  simp [firstMissing?, missing]

theorem firstMissing?_cons_of_found (found : find spec.path = some value) :
    firstMissing? find (spec :: rest) = firstMissing? find rest := by
  simp [firstMissing?, found]

theorem gathered_cons_of_found (found : find spec.path = some value) :
    gathered find (spec :: rest) = (spec.key, value) :: gathered find rest := by
  simp [gathered, found]

theorem lastFor?_cons (key : String) (spec : KeySpec) (rest : List KeySpec) :
    lastFor? key (spec :: rest) =
      (lastFor? key rest).or (if spec.key = key then some spec else none) := by
  rw [lastFor?, List.reverse_cons, List.find?_append, lastFor?]
  by_cases same : spec.key = key <;> simp [same]

/-! ### All of them -/

/-- No path is missing exactly where something is found at each. -/
theorem firstMissing?_eq_none_iff :
    firstMissing? find specs = none ↔ ∀ spec ∈ specs, (find spec.path).isSome := by
  simp [firstMissing?, Option.isSome_iff_ne_none]

/-- The first path that is missing comes after paths at which something is found. -/
theorem firstMissing?_eq_some_iff :
    firstMissing? find specs = some spec ↔
      ∃ before after, specs = before ++ spec :: after ∧
        (∀ earlier ∈ before, (find earlier.path).isSome) ∧ find spec.path = none := by
  rw [firstMissing?, List.find?_eq_some_iff_append]
  constructor
  · rintro ⟨missing, before, after, split, found⟩
    exact ⟨before, after, split, by simpa using found, by simpa using missing⟩
  · rintro ⟨before, after, split, found, missing⟩
    exact ⟨by simp [missing], before, after, split, by simpa using found⟩

/-- The first specifier whose path is missing is one of them. -/
theorem of_firstMissing?_eq_some (first : firstMissing? find specs = some spec) :
    spec ∈ specs ∧ find spec.path = none := by
  refine ⟨List.mem_of_find?_eq_some first, ?_⟩
  simpa using List.find?_some first

/-- The last specifier with a flat key is one of them and has that key. -/
theorem of_lastFor?_eq_some (last : lastFor? key specs = some spec) :
    spec ∈ specs ∧ spec.key = key := by
  refine ⟨List.mem_reverse.mp (List.mem_of_find?_eq_some last), ?_⟩
  simpa using List.find?_some last

theorem lastFor?_eq_none_iff : lastFor? key specs = none ↔ ∀ spec ∈ specs, spec.key ≠ key := by
  simp [lastFor?]

/-- Where no two specifiers share a flat key each one is the last with its key. -/
theorem lastFor?_of_mem (once : (specs.map KeySpec.key).Nodup) (member : spec ∈ specs) :
    lastFor? spec.key specs = some spec := by
  induction specs with
  | nil => cases member
  | cons first rest inductionHypothesis =>
      obtain ⟨alone, onceLater⟩ := List.nodup_cons.mp once
      rw [lastFor?_cons]
      rcases List.mem_cons.mp member with rfl | later
      · have noneLater : lastFor? spec.key rest = none :=
          lastFor?_eq_none_iff.mpr fun other listed same =>
            alone (same ▸ List.mem_map_of_mem listed)
        rw [noneLater, if_pos rfl]
        rfl
      · rw [inductionHypothesis onceLater later]
        rfl

/-- If nothing is missing every flat key has an entry. -/
theorem keys_gathered (complete : ∀ spec ∈ specs, (find spec.path).isSome) :
    (gathered find specs).map Prod.fst = specs.map KeySpec.key := by
  induction specs with
  | nil => rfl
  | cons spec rest inductionHypothesis =>
      obtain ⟨first, others⟩ := List.forall_mem_cons.mp complete
      obtain ⟨value, found⟩ := Option.isSome_iff_exists.mp first
      rw [gathered_cons_of_found found, List.map_cons, List.map_cons, inductionHypothesis others]

/-- The last entry under a flat key is what the last specifier with that key found. -/
theorem lookup_reverse_gathered (complete : ∀ spec ∈ specs, (find spec.path).isSome)
    (key : String) :
    Table.lookup key (gathered find specs).reverse =
      (lastFor? key specs).bind fun spec => find spec.path := by
  induction specs with
  | nil => rfl
  | cons spec rest inductionHypothesis =>
      obtain ⟨first, others⟩ := List.forall_mem_cons.mp complete
      obtain ⟨value, found⟩ := Option.isSome_iff_exists.mp first
      rw [gathered_cons_of_found found, List.reverse_cons, Table.lookup_append,
        inductionHypothesis others, lastFor?_cons]
      cases last : lastFor? key rest with
      | none =>
          by_cases same : key = spec.key
          · simp [Table.lookup, same, found]
          · simp [Table.lookup, same, Ne.symm same]
      | some later =>
          obtain ⟨listed, _⟩ := of_lastFor?_eq_some last
          obtain ⟨value', found'⟩ := Option.isSome_iff_exists.mp (others later listed)
          simp [found']

/-- Setting all that is gathered sets each flat key to what its last specifier found, and leaves the
other keys as they are. -/
theorem get?_insertAll_gathered (complete : ∀ spec ∈ specs, (find spec.path).isSome)
    (table : Table Json) (key : String) :
    (table.insertAll (gathered find specs)).get? key =
      match lastFor? key specs with
      | some spec => find spec.path
      | none => table.get? key := by
  rw [Table.get?_insertAll, lookup_reverse_gathered complete]
  cases last : lastFor? key specs with
  | none => rfl
  | some spec =>
      obtain ⟨value, found⟩ :=
        Option.isSome_iff_exists.mp (complete spec (of_lastFor?_eq_some last).1)
      simp [found]

end KeySpec

open KeySpec

/-! ### Extraction and collection -/

/-- The state in which entries are set one after the other. -/
def State.setAll (state : State) (entries : List (String × Json)) : State :=
  ⟨state.values.insertAll entries⟩

/-- An extraction fails for the first path that the payload lacks, or sets all that it gathers. -/
theorem extractFields_eq (state : State) (payload : Json) (context : String)
    (specs : List KeySpec) :
    extractFields state payload context specs =
      match firstMissing? payload.at? specs with
      | some spec => .error (.missingPath spec.path context)
      | none => .ok (state.setAll (gathered payload.at? specs)) := by
  induction specs generalizing state with
  | nil => rfl
  | cons spec rest inductionHypothesis =>
      rw [extractFields]
      cases found : payload.at? spec.path with
      | none => rw [firstMissing?_cons_of_missing found]
      | some value =>
          rw [firstMissing?_cons_of_found found, gathered_cons_of_found found]
          exact inductionHypothesis (state.insert spec.key value)

/-- Collecting parameters fails for the first path that the state lacks, or sets all that it
gathers. -/
theorem collectParams_eq (state : State) (found : Table Json) (specs : List KeySpec) :
    collectParams state found specs =
      match firstMissing? state.at? specs with
      | some spec => .error (.missingPath spec.path "state")
      | none => .ok (found.insertAll (gathered state.at? specs)) := by
  induction specs generalizing found with
  | nil => rfl
  | cons spec rest inductionHypothesis =>
      rw [collectParams, State.fetchAt]
      cases known : state.at? spec.path with
      | none =>
          rw [firstMissing?_cons_of_missing known]
          rfl
      | some value =>
          rw [firstMissing?_cons_of_found known, gathered_cons_of_found known]
          exact inductionHypothesis (found.insert spec.key value)

variable {state next : State} {payload : Json} {context : String} {specs order : List KeySpec}

/-- An extraction succeeds exactly where the payload has a value at every path, and sets what it
gathers. -/
theorem extractFields_eq_ok_iff :
    extractFields state payload context specs = .ok next ↔
      (∀ spec ∈ specs, (payload.at? spec.path).isSome) ∧
        next = state.setAll (gathered payload.at? specs) := by
  rw [extractFields_eq, ← firstMissing?_eq_none_iff]
  cases firstMissing? payload.at? specs with
  | none => simp [eq_comm]
  | some spec => simp

/-- An extraction fails exactly for the first path that the payload lacks. -/
theorem extractFields_eq_error_iff {cause : ScriptError} :
    extractFields state payload context specs = .error cause ↔
      ∃ spec, firstMissing? payload.at? specs = some spec ∧
        cause = .missingPath spec.path context := by
  rw [extractFields_eq]
  cases firstMissing? payload.at? specs with
  | none => simp
  | some spec => simp [eq_comm]

/-- After an extraction a key has what its last specifier found, or what it had before. -/
theorem get?_of_extractFields (extracted : extractFields state payload context specs = .ok next)
    (key : String) :
    next.get? key =
      match lastFor? key specs with
      | some spec => payload.at? spec.path
      | none => state.get? key := by
  obtain ⟨complete, rfl⟩ := extractFields_eq_ok_iff.mp extracted
  exact get?_insertAll_gathered complete state.values key

/-- Parameters are collected exactly where the state has a value at every path. -/
theorem collectParams_eq_ok_iff {found params : Table Json} :
    collectParams state found specs = .ok params ↔
      (∀ spec ∈ specs, (state.at? spec.path).isSome) ∧
        params = found.insertAll (gathered state.at? specs) := by
  rw [collectParams_eq, ← firstMissing?_eq_none_iff]
  cases firstMissing? state.at? specs with
  | none => simp [eq_comm]
  | some spec => simp

/-- Parameters are refused exactly for the first path that the state lacks. -/
theorem collectParams_eq_error_iff {found : Table Json} {cause : ScriptError} :
    collectParams state found specs = .error cause ↔
      ∃ spec, firstMissing? state.at? specs = some spec ∧
        cause = .missingPath spec.path "state" := by
  rw [collectParams_eq]
  cases firstMissing? state.at? specs with
  | none => simp
  | some spec => simp [eq_comm]

/-- What is extracted once more is there already. -/
theorem extractFields_again (extracted : extractFields state payload context specs = .ok next) :
    extractFields next payload context specs = .ok next := by
  obtain ⟨complete, rfl⟩ := extractFields_eq_ok_iff.mp extracted
  refine extractFields_eq_ok_iff.mpr ⟨complete, ?_⟩
  have repeated := Table.insertAll_insertAll state.values
    (List.Subset.refl ((gathered payload.at? specs).map Prod.fst))
  rw [State.setAll, State.setAll, repeated]

/-- Specifiers with different flat keys leave the same state in every order. -/
theorem extractFields_of_perm (once : (specs.map KeySpec.key).Nodup) (permuted : order.Perm specs)
    (extracted : extractFields state payload context specs = .ok next) :
    extractFields state payload context order = .ok next := by
  obtain ⟨complete, rfl⟩ := extractFields_eq_ok_iff.mp extracted
  have onceGathered : ((gathered payload.at? specs).map Prod.fst).Nodup := by
    rw [keys_gathered complete]
    exact once
  have same : (gathered payload.at? specs).Perm (gathered payload.at? order) :=
    permuted.symm.filterMap _
  refine extractFields_eq_ok_iff.mpr ⟨fun spec member => ?_, ?_⟩
  · exact complete spec (permuted.mem_iff.mp member)
  · rw [State.setAll, State.setAll, Table.insertAll_perm same onceGathered]

/-- Extraction is exact, may be repeated and does not depend on order.  For every state, payload,
context and list of specifiers: the extraction succeeds exactly where the payload has a value at
every path, and otherwise fails with the first path that it lacks and the context; on success a key
has the payload's value at the path of the last specifier with that flat key, whatever was written
before, and if there is none it has what the state had; extracting again into the state that was
left changes nothing; and if no two specifiers share a flat key every order of them leaves the same
state or fails alike. -/
theorem extraction_exact (state : State) (payload : Json) (context : String)
    (specs : List KeySpec) :
    ((∃ next, extractFields state payload context specs = .ok next) ↔
      ∀ spec ∈ specs, (payload.at? spec.path).isSome) ∧
    (∀ cause, extractFields state payload context specs = .error cause ↔
      ∃ spec, firstMissing? payload.at? specs = some spec ∧
        cause = .missingPath spec.path context) ∧
    (∀ next, extractFields state payload context specs = .ok next →
      (∀ key, next.get? key =
        match lastFor? key specs with
        | some spec => payload.at? spec.path
        | none => state.get? key) ∧
      extractFields next payload context specs = .ok next) ∧
    ((specs.map KeySpec.key).Nodup → ∀ order, order.Perm specs →
      (extractFields state payload context order).toOption =
        (extractFields state payload context specs).toOption) := by
  refine ⟨⟨?_, ?_⟩, fun cause => extractFields_eq_error_iff,
    fun next extracted => ⟨get?_of_extractFields extracted, extractFields_again extracted⟩, ?_⟩
  · rintro ⟨next, extracted⟩
    exact (extractFields_eq_ok_iff.mp extracted).1
  · intro complete
    exact ⟨_, extractFields_eq_ok_iff.mpr ⟨complete, rfl⟩⟩
  · intro once order permuted
    have onceInOrder : (order.map KeySpec.key).Nodup := (permuted.map _).nodup_iff.mpr once
    cases extracted : extractFields state payload context specs with
    | ok next => rw [extractFields_of_perm once permuted extracted]
    | error cause =>
        cases inOrder : extractFields state payload context order with
        | error other => rfl
        | ok next =>
            rw [extractFields_of_perm onceInOrder permuted.symm inOrder] at extracted
            cases extracted

/-- What a page answers when it is asked for its frames. -/
def framesAnswer : Json :=
  .object
    [("frameTree", .object [("frame", .object [("id", .str "F9")])]),
      ("sessions", .arr [.str "S1", .str "S2"])]

/-- A member deep inside, an item of an array under a reserved key, and the answer as a whole. -/
def framesFields : List KeySpec :=
  [.mapped "frameId" ["frameTree", "frame", "id"], .mapped sessionIdKey ["sessions", "1"],
    .mapped "answer" []]

/-- The answer has all that is asked of it, in whatever order. -/
theorem framesAnswer_extracted :
    (framesFields.map KeySpec.key).Nodup ∧
      ∃ next, extractFields .empty framesAnswer "result" framesFields = .ok next ∧
        next.get? sessionIdKey = some (.str "S2") ∧ next.get? "loaderId" = none ∧
        extractFields next framesAnswer "result" framesFields = .ok next ∧
        (extractFields .empty framesAnswer "result" framesFields.reverse).toOption = some next := by
  have once : (framesFields.map KeySpec.key).Nodup := by decide
  obtain ⟨succeeds, _, exactly, anyOrder⟩ :=
    extraction_exact .empty framesAnswer "result" framesFields
  obtain ⟨next, extracted⟩ := succeeds.mpr (by decide)
  obtain ⟨values, again⟩ := exactly next extracted
  refine ⟨once, next, extracted, values sessionIdKey, values "loaderId", again, ?_⟩
  rw [anyOrder once framesFields.reverse (List.reverse_perm _), extracted]
  rfl

end Dialogue

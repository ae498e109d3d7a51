import Dialogue.KeySpec
/-!
# How a payload is compared with the state

A payload agrees with the state on a specifier if both have a value for it and these are equal.
There are two ways not to agree: the state may lack the key, which is an error of the script, or the
payload may have no value or another one.  The comparison stops at the first specifier that does not
agree, whichever way, and so it is this specifier that decides.

A key that the state lacks is therefore no error if a difference comes before it.  If a list has
both, the order of its specifiers tells an error from a mere difference.
-/

namespace Dialogue

namespace KeySpec

/-- The state has a value at the key and the payload an equal one at the path. -/
def Agrees (spec : KeySpec) (state : State) (params : Json) : Prop :=
  ∃ expected actual, state.get? spec.key = some expected ∧ params.at? spec.path = some actual ∧
    (actual == expected) = true

/-- The state has no value at the key. -/
def Unknown (spec : KeySpec) (state : State) : Prop :=
  state.get? spec.key = none

/-- The state has a value at the key and the payload no equal one at the path. -/
def Differs (spec : KeySpec) (state : State) (params : Json) : Prop :=
  ¬spec.Unknown state ∧ ¬spec.Agrees state params

variable {spec : KeySpec} {state : State} {params : Json}

theorem Unknown.not_agrees (unknown : spec.Unknown state) : ¬spec.Agrees state params := by
  rintro ⟨expected, _, known, _⟩
  rw [Unknown, known] at unknown
  cases unknown

end KeySpec

variable {state : State} {params : Json} {spec : KeySpec} {specs before rest : List KeySpec}

/-! ### One specifier -/

/-- What agrees leaves the comparison to the others. -/
theorem fieldsMatch_cons_of_agrees (agrees : spec.Agrees state params) :
    fieldsMatch state params (spec :: rest) = fieldsMatch state params rest := by
  obtain ⟨expected, actual, known, found, same⟩ := agrees
  rw [fieldsMatch, State.fetch, known]
  simp [bind, Except.bind, found, same]

/-- A key that the state lacks ends the comparison with an error. -/
theorem fieldsMatch_cons_of_unknown (unknown : spec.Unknown state) :
    fieldsMatch state params (spec :: rest) = .error (.missingKey spec.key) := by
  rw [KeySpec.Unknown] at unknown
  rw [fieldsMatch, State.fetch, unknown]
  rfl

/-- A difference ends the comparison without one. -/
theorem fieldsMatch_cons_of_differs (differs : spec.Differs state params) :
    fieldsMatch state params (spec :: rest) = .ok false := by
  obtain ⟨known, disagrees⟩ := differs
  cases expects : state.get? spec.key with
  | none => exact absurd expects known
  | some expected =>
      rw [fieldsMatch, State.fetch, expects]
      cases found : params.at? spec.path with
      | none => rfl
      | some actual =>
          have other : (actual == expected) = false := by
            cases same : actual == expected with
            | false => rfl
            | true => exact absurd ⟨expected, actual, expects, found, same⟩ disagrees
          simp [bind, Except.bind, pure, Except.pure, other]

/-! ### All of them -/

/-- Specifiers that agree leave the comparison to those behind them. -/
theorem fieldsMatch_append_of_agrees (agree : ∀ spec ∈ before, spec.Agrees state params) :
    fieldsMatch state params (before ++ rest) = fieldsMatch state params rest := by
  induction before with
  | nil => rfl
  | cons first others inductionHypothesis =>
      obtain ⟨head, tail⟩ := List.forall_mem_cons.mp agree
      rw [List.cons_append, fieldsMatch_cons_of_agrees head, inductionHypothesis tail]

/-- The verdict of a comparison: that of the first specifier that does not agree. -/
inductive Compared (state : State) (params : Json) (specs : List KeySpec) :
    Except ScriptError Bool → Prop where
  | agreed (all : ∀ spec ∈ specs, spec.Agrees state params) : Compared state params specs (.ok true)
  | unknown {before after : List KeySpec} {spec : KeySpec} (split : specs = before ++ spec :: after)
      (agree : ∀ earlier ∈ before, earlier.Agrees state params) (unknown : spec.Unknown state) :
      Compared state params specs (.error (.missingKey spec.key))
  | differs {before after : List KeySpec} {spec : KeySpec} (split : specs = before ++ spec :: after)
      (agree : ∀ earlier ∈ before, earlier.Agrees state params)
      (differs : spec.Differs state params) : Compared state params specs (.ok false)

namespace Compared

variable {verdict : Except ScriptError Bool}

/-- A specifier that agrees in front makes no difference. -/
theorem cons (compared : Compared state params rest verdict) (agrees : spec.Agrees state params) :
    Compared state params (spec :: rest) verdict := by
  cases compared with
  | agreed all => exact .agreed (List.forall_mem_cons.mpr ⟨agrees, all⟩)
  | @unknown before after missing split agree unknown =>
      have extended : spec :: rest = (spec :: before) ++ missing :: after := by
        rw [split, List.cons_append]
      exact .unknown extended (List.forall_mem_cons.mpr ⟨agrees, agree⟩) unknown
  | @differs before after other split agree differs =>
      have extended : spec :: rest = (spec :: before) ++ other :: after := by
        rw [split, List.cons_append]
      exact .differs extended (List.forall_mem_cons.mpr ⟨agrees, agree⟩) differs

/-- Every comparison has a verdict. -/
theorem exists_verdict (state : State) (params : Json) (specs : List KeySpec) :
    ∃ verdict, Compared state params specs verdict := by
  induction specs with
  | nil => exact ⟨_, .agreed (by simp)⟩
  | cons spec rest inductionHypothesis =>
      by_cases agrees : spec.Agrees state params
      · obtain ⟨verdict, compared⟩ := inductionHypothesis
        exact ⟨verdict, compared.cons agrees⟩
      · have first : spec :: rest = [] ++ spec :: rest := rfl
        by_cases unknown : spec.Unknown state
        · exact ⟨_, .unknown first (by simp) unknown⟩
        · exact ⟨_, .differs first (by simp) ⟨unknown, agrees⟩⟩

/-- The comparison comes to its verdict. -/
theorem fieldsMatch_eq (compared : Compared state params specs verdict) :
    fieldsMatch state params specs = verdict := by
  cases compared with
  | agreed all =>
      rw [← List.append_nil specs, fieldsMatch_append_of_agrees all]
      rfl
  | unknown split agree unknown =>
      rw [split, fieldsMatch_append_of_agrees agree, fieldsMatch_cons_of_unknown unknown]
  | differs split agree differs =>
      rw [split, fieldsMatch_append_of_agrees agree, fieldsMatch_cons_of_differs differs]

end Compared

/-- A comparison comes to its verdict and to no other. -/
theorem fieldsMatch_eq_iff {verdict : Except ScriptError Bool} :
    fieldsMatch state params specs = verdict ↔ Compared state params specs verdict := by
  constructor
  · intro reached
    obtain ⟨other, compared⟩ := Compared.exists_verdict state params specs
    rwa [← reached, compared.fieldsMatch_eq]
  · exact Compared.fieldsMatch_eq

/-- A comparison finds agreement exactly where all specifiers agree. -/
theorem fieldsMatch_eq_true_iff :
    fieldsMatch state params specs = .ok true ↔ ∀ spec ∈ specs, spec.Agrees state params := by
  rw [fieldsMatch_eq_iff]
  constructor
  · rintro ⟨all⟩
    exact all
  · exact Compared.agreed

/-- A comparison fails exactly where the first specifier that does not agree is unknown. -/
theorem fieldsMatch_eq_error_iff {cause : ScriptError} :
    fieldsMatch state params specs = .error cause ↔
      ∃ before spec after, specs = before ++ spec :: after ∧
        (∀ earlier ∈ before, earlier.Agrees state params) ∧ spec.Unknown state ∧
        cause = .missingKey spec.key := by
  rw [fieldsMatch_eq_iff]
  constructor
  · intro compared
    cases compared with
    | @unknown before after spec split agree unknown =>
        exact ⟨before, spec, after, split, agree, unknown, rfl⟩
  · rintro ⟨before, spec, after, split, agree, unknown, rfl⟩
    exact .unknown split agree unknown

/-- A comparison answers no exactly where the first specifier that does not agree differs. -/
theorem fieldsMatch_eq_false_iff :
    fieldsMatch state params specs = .ok false ↔
      ∃ before spec after, specs = before ++ spec :: after ∧
        (∀ earlier ∈ before, earlier.Agrees state params) ∧ spec.Differs state params := by
  rw [fieldsMatch_eq_iff]
  constructor
  · intro compared
    cases compared with
    | @differs before after spec split agree differs =>
        exact ⟨before, spec, after, split, agree, differs⟩
  · rintro ⟨before, spec, after, split, agree, differs⟩
    exact .differs split agree differs

/-! ### Which keys are reported as missing -/

/-- A comparison that fails reports a key that the state lacks. -/
theorem Compared.exists_unknown {key : String}
    (compared : Compared state params specs (.error (.missingKey key))) :
    ∃ spec ∈ specs, spec.Unknown state := by
  cases compared with
  | @unknown before after spec split agree unknown => exact ⟨spec, by simp [split], unknown⟩

/-- Where no specifier differs a comparison fails for every key that the state lacks. -/
theorem exists_missingKey_of_unknown (unknown : ∃ spec ∈ specs, spec.Unknown state)
    (same : ¬∃ spec ∈ specs, spec.Differs state params) :
    ∃ key, fieldsMatch state params specs = .error (.missingKey key) := by
  obtain ⟨verdict, compared⟩ := Compared.exists_verdict state params specs
  have reached := compared.fieldsMatch_eq
  cases compared with
  | agreed all =>
      obtain ⟨spec, member, missing⟩ := unknown
      exact absurd (all spec member) missing.not_agrees
  | @unknown before after spec => exact ⟨spec.key, reached⟩
  | @differs before after spec split agree differs =>
      exact absurd ⟨spec, by simp [split], differs⟩ same

/-- In some order the specifiers begin with any one of them. -/
theorem exists_order_of_mem (member : spec ∈ specs) : ∃ rest, (spec :: rest).Perm specs :=
  ⟨specs.erase spec, (List.perm_cons_erase member).symm⟩

/-- Whether the state lacks a key shows in every order of the specifiers, unless one of them is
unknown and another one differs. -/
theorem reported_in_every_order_iff :
    (∀ order, order.Perm specs →
        ((∃ key, fieldsMatch state params order = .error (.missingKey key)) ↔
          ∃ spec ∈ specs, spec.Unknown state)) ↔
      ¬((∃ spec ∈ specs, spec.Unknown state) ∧ ∃ spec ∈ specs, spec.Differs state params) := by
  constructor
  · rintro reported ⟨unknown, spec, member, differs⟩
    -- In the order that begins with the difference no key is reported.
    obtain ⟨rest, order⟩ := exists_order_of_mem member
    obtain ⟨key, failed⟩ := (reported _ order).mpr unknown
    rw [fieldsMatch_cons_of_differs differs] at failed
    cases failed
  · intro notBoth order permuted
    constructor
    · rintro ⟨key, failed⟩
      obtain ⟨spec, member, unknown⟩ := (fieldsMatch_eq_iff.mp failed).exists_unknown
      exact ⟨spec, permuted.mem_iff.mp member, unknown⟩
    · rintro ⟨spec, member, unknown⟩
      refine exists_missingKey_of_unknown ⟨spec, permuted.mem_iff.mpr member, unknown⟩ ?_
      rintro ⟨other, inOrder, differs⟩
      exact notBoth ⟨⟨spec, member, unknown⟩, other, permuted.mem_iff.mp inOrder, differs⟩

/-- The first specifier that does not agree decides a comparison.  Without one the payload agrees
with the state; if the state lacks its key the comparison fails and reports that key; and if it
differs the answer is no, whatever keys the state lacks behind it.  So whether the state lacks a key
shows in whatever order the specifiers come exactly if there is no such key or no specifier
differs. -/
theorem comparison_decided_by_first_disagreement (state : State) (params : Json)
    (specs : List KeySpec) :
    (fieldsMatch state params specs = .ok true ↔ ∀ spec ∈ specs, spec.Agrees state params) ∧
    (∀ cause, fieldsMatch state params specs = .error cause ↔
      ∃ before spec after, specs = before ++ spec :: after ∧
        (∀ earlier ∈ before, earlier.Agrees state params) ∧ spec.Unknown state ∧
        cause = .missingKey spec.key) ∧
    (fieldsMatch state params specs = .ok false ↔
      ∃ before spec after, specs = before ++ spec :: after ∧
        (∀ earlier ∈ before, earlier.Agrees state params) ∧ spec.Differs state params) ∧
    ((∀ order, order.Perm specs →
        ((∃ key, fieldsMatch state params order = .error (.missingKey key)) ↔
          ∃ spec ∈ specs, spec.Unknown state)) ↔
      ¬((∃ spec ∈ specs, spec.Unknown state) ∧ ∃ spec ∈ specs, spec.Differs state params)) := by
  refine ⟨fieldsMatch_eq_true_iff, fun cause => fieldsMatch_eq_error_iff, fieldsMatch_eq_false_iff,
    reported_in_every_order_iff⟩

/-- The page that a run has loaded, and what another one reports. -/
def loadedPage : State :=
  ⟨.ofList [("frameId", .str "F")]⟩

def otherPage : Json :=
  .object [("frameId", .str "G")]

/-- The page is asked for before the key that the state lacks. -/
theorem comparison_of_other_page :
    (fieldsMatch loadedPage otherPage [.bare "frameId", .bare "loaderId"] = .ok false) ∧
      ∃ order, order.Perm [.bare "frameId", .bare "loaderId"] ∧
        fieldsMatch loadedPage otherPage order = .error (.missingKey "loaderId") := by
  have differs : (KeySpec.bare "frameId").Differs loadedPage otherPage := by
    constructor
    · intro unknown
      cases unknown
    · rintro ⟨expected, actual, known, found, same⟩
      cases known
      cases found
      cases same
  obtain ⟨_, _, answersNo, _⟩ := comparison_decided_by_first_disagreement loadedPage otherPage
    [.bare "frameId", .bare "loaderId"]
  obtain ⟨_, fails, _, _⟩ := comparison_decided_by_first_disagreement loadedPage otherPage
    [.bare "loaderId", .bare "frameId"]
  refine ⟨answersNo.mpr ⟨[], _, _, rfl, by simp, differs⟩,
    [.bare "loaderId", .bare "frameId"], .swap _ _ _, ?_⟩
  exact (fails _).mpr ⟨[], _, _, rfl, by simp, rfl, rfl⟩

/-- A key that the state lacks is not always reported: behind a difference it goes unnoticed. -/
theorem missing_key_not_always_fatal :
    (fieldsMatch loadedPage otherPage [.bare "frameId", .bare "loaderId"] = .ok false ∧
        loadedPage.get? "loaderId" = none) ∧
      ¬∀ (state : State) (params : Json) (specs : List KeySpec),
        (∃ key, fieldsMatch state params specs = .error (.missingKey key)) ↔
          ∃ spec ∈ specs, state.get? spec.key = none := by
  have unnoticed : fieldsMatch loadedPage otherPage [.bare "frameId", .bare "loaderId"] =
      .ok false := by
    rfl
  refine ⟨⟨unnoticed, rfl⟩, fun always => ?_⟩
  obtain ⟨key, reported⟩ := (always loadedPage otherPage [.bare "frameId", .bare "loaderId"]).mpr
    ⟨.bare "loaderId", by simp, rfl⟩
  rw [unnoticed] at reported
  cases reported

end Dialogue

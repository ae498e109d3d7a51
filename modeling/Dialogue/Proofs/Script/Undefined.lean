import Dialogue.Proofs.Script.Declared
/-!
# Uses that no step defines

A step uses values of the state: the parameters of its call, the values that it compares a
notification with, and those that it returns.  Options can give them, and so can the steps before
it, which extract fields into the state.  What is used and extracted by no step before is left for
the options to give; `undefinedUses` reads it off the steps.  A rule of a call's own may look at the
state in its own way and is no use in this sense.
-/

namespace Dialogue

/-- A value that a step needs in the state. -/
inductive Use where
  /-- The value of a key. -/
  | value (key : String)
  /-- The parameter at a path. -/
  | parameter (path : List String)
deriving DecidableEq

namespace Use

/-- The path at which the value is looked for. -/
def path : Use → List String
  | .value key => [key]
  | .parameter path => path

/-- The error of a step that does not find the value. -/
def cause : Use → ScriptError
  | .value key => .missingKey key
  | .parameter path => .missingPath path "state"

/-- Whether none of the keys is enough for the value to be there. -/
def unknown (use : Use) (known : List String) : Bool :=
  known.all fun key => use.path ≠ [key]

theorem unknown_iff {use : Use} {known : List String} :
    use.unknown known = true ↔ ∀ key ∈ known, use.path ≠ [key] := by
  simp [unknown]

end Use

/-- The values that a step uses. -/
def Step.uses (step : Step) : List Use :=
  match step.action with
  | .call { params := .keys specs, .. } => specs.map fun spec => .parameter spec.path
  | .call { params := .computed _, .. } => []
  | .await (.response _) => []
  | .await (.notification handler) => handler.matchOn.map fun spec => .value spec.key
  | .output spec => spec.keys.map .value

/-- The uses of steps that neither the known keys nor the steps before define. -/
def undefinedUses (known : List String) : List Step → List Use
  | [] => []
  | step :: rest =>
      step.uses.filter (·.unknown known) ++
        undefinedUses (known ++ step.fields.map KeySpec.key) rest

variable {known more : List String} {first second done rest : List Step} {step : Step} {use : Use}

/-- The more is known the less is undefined. -/
theorem undefinedUses_anti (subset : known ⊆ more) :
    undefinedUses more first ⊆ undefinedUses known first := by
  induction first generalizing known more with
  | nil => exact fun _ => id
  | cons step rest inductionHypothesis =>
      intro use member
      rw [undefinedUses, List.mem_append] at member ⊢
      refine member.imp (fun here => ?_) fun later => ?_
      · obtain ⟨used, unknown⟩ := List.mem_filter.mp here
        refine List.mem_filter.mpr ⟨used, Use.unknown_iff.mpr fun key inKnown => ?_⟩
        exact Use.unknown_iff.mp unknown key (subset inKnown)
      · refine inductionHypothesis ?_ later
        exact List.append_subset.mpr
          ⟨List.subset_append_of_subset_left _ subset, List.subset_append_right _ _⟩

/-- What is undefined in two lists of steps, one after the other, is so in one of them. -/
theorem mem_undefinedUses_append (undefined : use ∈ undefinedUses known (first ++ second)) :
    use ∈ undefinedUses known first ∨ use ∈ undefinedUses known second := by
  induction first generalizing known with
  | nil => exact .inr undefined
  | cons step rest inductionHypothesis =>
      rw [List.cons_append, undefinedUses, List.mem_append] at undefined
      rw [undefinedUses, List.mem_append]
      rcases undefined with here | later
      · exact .inl (.inl here)
      · rcases inductionHypothesis later with inRest | inSecond
        · exact .inl (.inr inRest)
        · exact .inr (undefinedUses_anti (List.subset_append_left _ _) inSecond)

/-- What is undefined in steps that apply under a condition is so where they apply. -/
theorem mem_undefinedUses_ite {applies : Bool}
    (undefined : use ∈ undefinedUses known (if applies then first else [])) :
    applies = true ∧ use ∈ undefinedUses known first := by
  cases applies with
  | true => exact ⟨rfl, undefined⟩
  | false => cases undefined

/-- A use is undefined if its key is not known and the steps before it spare that key. -/
theorem mem_undefinedUses (used : use ∈ step.uses)
    (undefined : ∀ key, use.path = [key] → key ∉ known ∧ Spares key done) :
    use ∈ undefinedUses known (done ++ step :: rest) := by
  induction done generalizing known with
  | nil =>
      rw [List.nil_append, undefinedUses]
      refine List.mem_append_left _ (List.mem_filter.mpr ⟨used, Use.unknown_iff.mpr ?_⟩)
      exact fun key inKnown named => (undefined key named).1 inKnown
  | cons before others inductionHypothesis =>
      rw [List.cons_append, undefinedUses]
      refine List.mem_append_right _ (inductionHypothesis fun key named => ?_)
      obtain ⟨unknown, spared⟩ := undefined key named
      refine ⟨?_, spared.mono (List.subset_cons_self _ _)⟩
      intro inKnown
      rcases List.mem_append.mp inKnown with early | extracted
      · exact unknown early
      · obtain ⟨spec, inFields, same⟩ := List.mem_map.mp extracted
        exact spared before List.mem_cons_self spec inFields same

end Dialogue

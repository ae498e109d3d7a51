import Dialogue.Proofs.Json.Equality
import Dialogue.Proofs.Script.Blocks
/-!
# What the steps of a script depend on

Compiling asks the options for nothing but the keys of guards.  Which guards it comes to is told by
`scanKeys`, which follows the scan: inside a block that does not apply none is evaluated, and a
script that is spliced in there is not looked into.  Options that agree on the keys that are
consulted under one of them lead to the same steps.

That is more than agreement on the guards of the script and of all scripts in it, at any depth, can
give.  An option may change freely if guards ask for it only inside spliced scripts that stand in
blocks which apply neither before the change nor after it.
-/

namespace Dialogue

/-- Both lack the option, or they have equal values for it. -/
def Options.SameAt (one other : Options) (key : String) : Prop :=
  (one.get? key == other.get? key) = true

instance (one other : Options) (key : String) : Decidable (one.SameAt other key) :=
  inferInstanceAs (Decidable (_ = true))

mutual

/-- The key of the guard that an element opens a block with, and those of the scripts in it. -/
def Element.guardKeys : Element → List String
  | .ifOption key _ => [key]
  | .splice _ body => guardKeys body
  | _ => []

/-- The keys of all guards in a sequence of elements, at any depth. -/
def guardKeys : List Element → List String
  | [] => []
  | element :: rest => element.guardKeys ++ guardKeys rest

end

mutual

/-- The keys that an element asks the options for where it applies. -/
def Element.consultedKeys (options : Options) : Element → List String
  | .ifOption key _ => [key]
  | .splice _ body => scanKeys options false body
  | _ => []

/-- The keys that the scan of a sequence of elements asks the options for.  What is skipped asks for
none. -/
def scanKeys (options : Options) (skipping : Bool) : List Element → List String
  | [] => []
  | element :: rest =>
      (if skipping then [] else element.consultedKeys options) ++
        scanKeys options (element.skippingAfter options skipping) rest

end

variable {one other : Options} {key : String}

/-- Options are the same where look-ups agree. -/
theorem Options.SameAt.of_get?_eq (same : one.get? key = other.get? key) :
    one.SameAt other key := by
  rw [Options.SameAt, same]
  cases other.get? key with
  | none => rfl
  | some value => exact Json.equal_self value

/-- A guard does not tell equal values of its option apart. -/
theorem guardHolds_congr (same : one.SameAt other key) (allowed : Option (List Json)) :
    guardHolds one key allowed = guardHolds other key allowed := by
  rw [Options.SameAt] at same
  unfold guardHolds
  cases before : one.get? key with
  | none =>
      cases after : other.get? key with
      | none => rfl
      | some otherValue => simp [before, after] at same
  | some value =>
      cases after : other.get? key with
      | none => simp [before, after] at same
      | some otherValue =>
          have equal : (value == otherValue) = true := by simpa [before, after] using same
          cases allowed with
          | none => rfl
          | some values => simp only [Json.beq_congr equal]

/-- After an element the scan skips under both options or under none of them, if the element asks
for nothing that they differ in. -/
theorem skippingAfter_congr (element : Element) (skipping : Bool)
    (same : skipping = false → ∀ key ∈ element.consultedKeys one, one.SameAt other key) :
    element.skippingAfter one skipping = element.skippingAfter other skipping := by
  cases element with
  | ifOption key allowed =>
      cases skipping with
      | true => rfl
      | false =>
          have asked : one.SameAt other key :=
            same rfl key (by rw [Element.consultedKeys]; exact List.mem_cons_self)
          simp only [Element.skippingAfter, guardHolds_congr asked allowed]
  | call | await | output | endIf | splice => rfl

mutual

/-- Options that agree on what an element asks for give it the same steps. -/
theorem steps_congr : ∀ element : Element,
    (∀ key ∈ element.consultedKeys one, one.SameAt other key) →
      element.steps one = element.steps other
  | .call name spec, _ => by simp [Element.steps]
  | .await name handler, _ => by simp [Element.steps]
  | .output name spec, _ => by simp [Element.steps]
  | .ifOption key allowed, _ => by simp [Element.steps]
  | .endIf, _ => by simp [Element.steps]
  | .splice name body, same => by
      rw [Element.consultedKeys] at same
      simpa [Element.steps] using scan_congr body false same

/-- Options that agree on what the scan asks for lead to the same steps. -/
theorem scan_congr : ∀ (elements : List Element) (skipping : Bool),
    (∀ key ∈ scanKeys one skipping elements, one.SameAt other key) →
      scanElements one skipping elements = scanElements other skipping elements
  | [], skipping, _ => by simp [scanElements]
  | element :: rest, skipping, same => by
      rw [scanKeys, List.forall_mem_append] at same
      obtain ⟨here, later⟩ := same
      have asked : skipping = false → ∀ key ∈ element.consultedKeys one, one.SameAt other key := by
        rintro rfl
        simpa using here
      have flag := skippingAfter_congr element skipping asked
      rw [scan_cons, scan_cons, ← flag, scan_congr rest _ later]
      cases skipping with
      | true => rfl
      | false => rw [steps_congr element (asked rfl)]

end

/-! ### Guards that are not consulted -/

/-- The elements end inside a block that applies under neither of the options. -/
def Barred (one other : Options) (elements : List Element) : Prop :=
  ∃ before key allowed inside, elements = before ++ .ifOption key allowed :: inside ∧
    (∀ element ∈ inside, element.isMarker = false) ∧
    ¬Applies one key allowed ∧ ¬Applies other key allowed

/-- A guard asks for the key, in these elements or in a script that is spliced in at a place that is
not barred. -/
inductive Exposed (one other : Options) (key : String) : List Element → Prop where
  | guard {elements : List Element} {allowed : Option (List Json)}
      (member : .ifOption key allowed ∈ elements) : Exposed one other key elements
  | spliced {before after body : List Element} {name : String} (free : ¬Barred one other before)
      (inside : Exposed one other key body) :
      Exposed one other key (before ++ .splice name body :: after)

/-- The flag of the scan behind some elements. -/
def skippingAt (options : Options) (elements : List Element) : Bool :=
  elements.foldl (fun skipping element => element.skippingAfter options skipping) false

/-- An element that is no marker leaves the flag of the scan as it is. -/
theorem skippingAfter_of_plain {element : Element} (options : Options) (skipping : Bool)
    (plain : element.isMarker = false) : element.skippingAfter options skipping = skipping := by
  cases element with
  | ifOption | endIf => cases plain
  | call | await | output | splice => rfl

/-- Inside a block that does not apply the scan skips. -/
theorem skippingAt_of_barred {elements : List Element} (barred : Barred one other elements) :
    skippingAt one elements = true := by
  obtain ⟨before, key, allowed, inside, rfl, plain, idle, _⟩ := barred
  have fails : guardHolds one key allowed = false := by
    simpa [← guardHolds_iff] using idle
  have opened (skipping : Bool) :
      (Element.ifOption key allowed).skippingAfter one skipping = true := by
    simp [Element.skippingAfter, fails]
  rw [skippingAt, List.foldl_append, List.foldl_cons, opened]
  clear opened
  induction inside with
  | nil => rfl
  | cons element rest inductionHypothesis =>
      obtain ⟨first, others⟩ := List.forall_mem_cons.mp plain
      rw [List.foldl_cons, skippingAfter_of_plain one true first]
      exact inductionHypothesis others

mutual

/-- What an element asks for at a place that is not barred is exposed. -/
theorem exposed_of_mem_consultedKeys : ∀ (element : Element) (before after : List Element),
    ¬Barred one other before → key ∈ element.consultedKeys one →
      Exposed one other key (before ++ element :: after)
  | .ifOption opening allowed, before, after, _, asked => by
      rw [Element.consultedKeys, List.mem_singleton] at asked
      subst asked
      have member : .ifOption key allowed ∈ before ++ .ifOption key allowed :: after := by simp
      exact .guard member
  | .splice name body, before, after, free, asked => by
      rw [Element.consultedKeys] at asked
      exact .spliced free (exposed_of_mem_scanKeys body [] asked)
  | .call name spec, before, after, _, asked => by simp [Element.consultedKeys] at asked
  | .await name handler, before, after, _, asked => by simp [Element.consultedKeys] at asked
  | .output name spec, before, after, _, asked => by simp [Element.consultedKeys] at asked
  | .endIf, before, after, _, asked => by simp [Element.consultedKeys] at asked

/-- What the scan asks for behind some elements is exposed. -/
theorem exposed_of_mem_scanKeys : ∀ (elements before : List Element),
    key ∈ scanKeys one (skippingAt one before) elements → Exposed one other key (before ++ elements)
  | [], before, asked => by simp [scanKeys] at asked
  | element :: rest, before, asked => by
      rw [scanKeys, List.mem_append] at asked
      rcases asked with here | later
      · cases flag : skippingAt one before with
        | true => simp [flag] at here
        | false =>
            have free : ¬Barred one other before := fun barred => by
              rw [skippingAt_of_barred barred] at flag
              cases flag
            exact exposed_of_mem_consultedKeys element before rest free (by simpa [flag] using here)
      · have next : skippingAt one (before ++ [element]) =
            element.skippingAfter one (skippingAt one before) := by
          simp [skippingAt, List.foldl_append]
        rw [← next] at later
        simpa using exposed_of_mem_scanKeys rest (before ++ [element]) later

end

/-- The keys of guards in a sequence are those of its elements. -/
theorem mem_guardKeys_iff {elements : List Element} :
    key ∈ guardKeys elements ↔ ∃ element ∈ elements, key ∈ element.guardKeys := by
  induction elements with
  | nil => simp [guardKeys]
  | cons element rest inductionHypothesis => simp [guardKeys, inductionHypothesis]

/-- What is exposed is the key of a guard. -/
theorem mem_guardKeys_of_exposed {elements : List Element}
    (exposed : Exposed one other key elements) : key ∈ guardKeys elements := by
  induction exposed with
  | @guard elements allowed member =>
      exact mem_guardKeys_iff.mpr ⟨_, member, by simp [Element.guardKeys]⟩
  | @spliced before after body name free inside inductionHypothesis =>
      refine mem_guardKeys_iff.mpr ⟨.splice name body, by simp, ?_⟩
      rwa [Element.guardKeys]

/-- Options that agree on the exposed keys lead to the same steps. -/
theorem steps_congr_of_exposed {script : Script}
    (same : ∀ key, Exposed one other key script.elements → one.SameAt other key) :
    script.steps one = script.steps other :=
  scan_congr script.elements false fun key asked =>
    same key (exposed_of_mem_scanKeys script.elements [] asked)

/-- Options that agree on the keys of all guards lead to the same steps. -/
theorem steps_congr_of_guardKeys {script : Script}
    (same : ∀ key ∈ guardKeys script.elements, one.SameAt other key) :
    script.steps one = script.steps other :=
  steps_congr_of_exposed fun key exposed => same key (mem_guardKeys_of_exposed exposed)

/-- Compiling depends on the guarded options only.  Options that agree on the keys of all guards, in
the script or in a script that is spliced in at any depth, lead to the same steps.  It is even
enough that they agree on the exposed keys: an option that guards ask for only inside spliced
scripts, where these stand in blocks that apply under neither of the options, may be whatever it
likes. -/
theorem steps_depend_on_guarded_options (script : Script) (one other : Options) :
    ((∀ key ∈ guardKeys script.elements, one.SameAt other key) →
      script.steps one = script.steps other) ∧
    ((∀ key, Exposed one other key script.elements → one.SameAt other key) →
      script.steps one = script.steps other) :=
  ⟨steps_congr_of_guardKeys, steps_congr_of_exposed⟩

/-- A session that is opened only if the option `setup` asks for it. -/
def openingOnDemand : Script where
  name := "opening_on_demand"
  elements := [.ifOption "setup" none, Protocol.spawnSession.spliced, .endIf, .outputOne "targetId"]

/-- No guard of printing asks for the option `landscape`, and the guard for `offline` is passed over
with the script that it stands in. -/
theorem steps_without_regard_to_options :
    (∀ key ∈ guardKeys Protocol.printToPdf.elements,
        Options.SameAt .empty (.ofList [("landscape", .bool true)]) key) ∧
      Protocol.printToPdf.steps .empty =
        Protocol.printToPdf.steps (.ofList [("landscape", .bool true)]) ∧
      (∀ key, Exposed .empty (.ofList [("offline", .bool true)]) key openingOnDemand.elements →
        Options.SameAt .empty (.ofList [("offline", .bool true)]) key) ∧
      openingOnDemand.steps .empty = openingOnDemand.steps (.ofList [("offline", .bool true)]) ∧
      (Protocol.spawnSession.steps .empty).length ≠
        (Protocol.spawnSession.steps (.ofList [("offline", .bool true)])).length := by
  have printing : ∀ key ∈ guardKeys Protocol.printToPdf.elements,
      Options.SameAt .empty (.ofList [("landscape", .bool true)]) key := by
    decide
  have barred : Barred .empty (.ofList [("offline", .bool true)]) [.ifOption "setup" none] :=
    ⟨[], "setup", none, [], rfl, by simp, by decide, by decide⟩
  have opening : ∀ key, Exposed .empty (.ofList [("offline", .bool true)]) key
      openingOnDemand.elements → Options.SameAt .empty (.ofList [("offline", .bool true)]) key := by
    intro key exposed
    generalize listed : openingOnDemand.elements = elements at exposed
    cases exposed with
    | @guard elements allowed member =>
        rw [← listed] at member
        simp [openingOnDemand, Script.spliced, Element.outputOne] at member
        obtain ⟨rfl, _⟩ := member
        decide
    | @spliced before after body name free inside =>
        -- The only spliced script is the second element.
        rcases before with _ | ⟨first, _ | ⟨second, others⟩⟩
        · cases listed
        · cases listed
          exact absurd barred free
        · injection listed with _ tail
          injection tail with _ later
          have member : .splice name body ∈ [.endIf, Element.outputOne "targetId"] := by
            rw [later]
            simp
          simp [Element.outputOne] at member
  exact ⟨printing, (steps_depend_on_guarded_options _ _ _).1 printing, opening,
    (steps_depend_on_guarded_options _ _ _).2 opening, by decide⟩

end Dialogue

import Dialogue.Config.Outline
import Dialogue.Proofs.Config.Printing
import Dialogue.Proofs.Json5.Record
/-!
# Loading what was saved

A configuration is printed without regard to references, and loading replaces references in the whole
text of a file before it is read.  So a configuration comes back from its file, whatever the
environment holds, exactly if none of its texts opens a reference and what is printed can be read
back: no line may end between quotes, and words are read as doubles.  Words of at most 53 bits are
doubles already, so limits of that size always come back (`load_saved_of_lt`).

The other direction takes two environments.  Variables that hold references to themselves leave the
file as it is, and variables that hold line breaks make it unreadable.
-/

namespace Dialogue.Config

open Dialogue.Json5 (Legible Whole WholeItems WholeMembers Reads itemTexts legible_of_printedTree?
  memberTexts printedItems?_texts printedMembers? printedPiece printedTree? printedTree?_str read_into
  readList_textTrees readMembers_known readOptional_textTree readText_textTree
  readWord_wordTree_eq_ok_iff textTree wordTree)

/-! ### Sections -/

/-- The texts of a logging section. -/
def loggingTexts (logging : LoggingConfig) : List String :=
  logging.format :: (logging.level.toList ++ (logging.filters ++ [logging.output]))

/-- The texts that a configuration is free to hold; a policy is one of three names. -/
def texts (config : Config) : List String :=
  (config.logging.map loggingTexts).getD []

theorem readPolicy_textTree (policy : Policy) : readPolicy (textTree policy.name) = .ok policy := by
  rw [readPolicy, textTree, Json5.Tree.readVariant, Json5.text_printed]
  simp only [bind, Except.bind, Policy.ofName?_name]
  rfl

theorem legible_policy (policy : Policy) : Legible policy.name.toList := by
  cases policy <;> decide

/-- A printed section is read as it was before printing. -/
theorem read_logging {logging : LoggingConfig}
    (legible : ∀ text ∈ loggingTexts logging, Legible text.toList) :
    ∃ tree, printedTree? (loggingOutline logging) = some tree ∧
      tree.readOptional loggingRecord.read = .ok (some logging) := by
  simp only [loggingTexts, List.forall_mem_cons, List.forall_mem_append, Option.mem_toList]
    at legible
  obtain ⟨format, level, filters, output, _⟩ := legible
  have filterTrees : printedTree? (.arr (logging.filters.map .str)) =
      some (.arr (logging.filters.map textTree)) := by
    rw [printedTree?, printedItems?_texts filters]
    rfl
  have members : Reads loggingRecord [] loggingRecord.start
      (("format", .str logging.format) ::
        ((logging.level.map fun level => ("level", Json.str level)).toList ++
          [("filters", .arr (logging.filters.map .str)), ("output", .str logging.output)]))
      (.ok logging) := by
    refine .cons rfl (by decide) (by decide) (printedTree?_str format)
      { format := logging.format } (read_into (readText_textTree _)) ?_
    refine Reads.optional (fun level => ({ format := logging.format, level } : LoggingConfig))
      rfl (by decide) (by decide) (fun text some => ?_) ?_
    · exact ⟨_, printedTree?_str (level text some), read_into (readOptional_textTree text)⟩
    · refine .cons rfl (by decide) (by decide) filterTrees
        { format := logging.format, level := logging.level, filters := logging.filters }
        (read_into (readList_textTrees _)) ?_
      exact .cons rfl (by decide) (by decide) (printedTree?_str output) logging
        (read_into (readText_textTree _)) .nil
  obtain ⟨tree, printed, _, read⟩ := members.object
  exact ⟨tree, printed, read⟩

theorem read_policies (policies : PolicyConfig) :
    ∃ tree, printedTree? (policyOutline policies) = some tree ∧
      tree.readOptional policyRecord.read = .ok (some policies) := by
  have members : Reads policyRecord [] policyRecord.start
      [("unhandled_runtime_exceptions", .str policies.exceptions.name),
        ("console_api_calls", .str policies.consoleCalls.name)] (.ok policies) := by
    refine .cons rfl (by decide) (by decide) (printedTree?_str (legible_policy _))
      { exceptions := policies.exceptions } (read_into (readPolicy_textTree _)) ?_
    exact .cons rfl (by decide) (by decide) (printedTree?_str (legible_policy _)) policies
      (read_into (readPolicy_textTree _)) .nil
  obtain ⟨tree, printed, _, read⟩ := members.object
  exact ⟨tree, printed, read⟩

/-- Both limits are doubles. -/
def ExactLimits (driver : DriverConfig) : Prop :=
  ExactWord driver.timeout ∧ ExactWord driver.maxSessions

instance (driver : DriverConfig) : Decidable (ExactLimits driver) :=
  inferInstanceAs (Decidable (_ ∧ _))

/-- Printed limits are read as they were before printing exactly if they are doubles. -/
theorem read_driver (driver : DriverConfig) :
    ∃ tree, printedTree? (driverOutline driver) = some tree ∧
      (tree.readOptional driverRecord.read = .ok (some driver) ↔ ExactLimits driver) := by
  have members : Reads driverRecord [] driverRecord.start
      [("timeout_ms", .word driver.timeout), ("max_sessions", .word driver.maxSessions)]
      ((wordTree driver.timeout).readWord.bind fun timeout =>
        (wordTree driver.maxSessions).readWord.bind fun maxSessions =>
          .ok { timeout, maxSessions }) := by
    refine ⟨[("timeout_ms".toList.map printedPiece, wordTree driver.timeout),
      ("max_sessions".toList.map printedPiece, wordTree driver.maxSessions)], ?_, ?_⟩
    · rw [printedMembers?, if_pos (by decide), printedMembers?, if_pos (by decide)]
      rfl
    · intro seen among
      rw [List.subset_nil.mp among, readMembers_known rfl (by decide)]
      change ((wordTree driver.timeout).readWord.bind fun timeout =>
        .ok { driverRecord.start with timeout }).bind _ = _
      cases (wordTree driver.timeout).readWord with
      | error misfit => rfl
      | ok timeout =>
          simp only [Except.bind]
          rw [readMembers_known rfl (by decide)]
          change ((wordTree driver.maxSessions).readWord.bind fun maxSessions =>
            (.ok { timeout, maxSessions } : Except Json5.Misfit DriverConfig)).bind _ = _
          cases (wordTree driver.maxSessions).readWord <;> rfl
  obtain ⟨tree, printed, _, read⟩ := members.object
  refine ⟨tree, printed, ?_⟩
  rw [read, ExactLimits, ← readWord_wordTree_eq_ok_iff, ← readWord_wordTree_eq_ok_iff]
  cases (wordTree driver.timeout).readWord with
  | error misfit => simp [Except.bind, Except.map]
  | ok timeout =>
      cases (wordTree driver.maxSessions).readWord with
      | error misfit => simp [Except.bind, Except.map]
      | ok maxSessions =>
        cases driver
        simp [Except.bind, Except.map]

/-- What a configuration needs to be read as it was before printing: no line ends in its texts, and
its limits are doubles. -/
def Representable (config : Config) : Prop :=
  (∀ text ∈ config.texts, Legible text.toList) ∧ ∀ driver ∈ config.driver, ExactLimits driver

instance (config : Config) : Decidable config.Representable :=
  inferInstanceAs (Decidable (_ ∧ _))

/-- Limits of at most 53 bits are doubles. -/
theorem representable_of_lt {config : Config}
    (legible : ∀ text ∈ config.texts, Legible text.toList)
    (small : ∀ driver ∈ config.driver,
      driver.timeout.toNat < twoTo 53 ∧ driver.maxSessions.toNat < twoTo 53) :
    config.Representable := by
  refine ⟨legible, fun driver present => ?_⟩
  obtain ⟨timeout, maxSessions⟩ := small driver present
  exact ⟨exactWord_of_lt timeout, exactWord_of_lt maxSessions⟩

/-- The member of the limits decides whether the configuration is read as it was. -/
theorem reads_driver (config : Config) :
    ∃ result, Reads sections ["policies", "logging"]
        { logging := config.logging, policies := config.policies }
        (config.driver.map fun driver => ("driver", driverOutline driver)).toList result ∧
      (result = .ok config ↔ ∀ driver ∈ config.driver, ExactLimits driver) := by
  obtain ⟨logging, policies, driver⟩ := config
  cases driver with
  | none => exact ⟨_, .nil, by simp⟩
  | some driver =>
      obtain ⟨tree, printed, read⟩ := read_driver driver
      refine ⟨_, .last rfl (by decide) (by decide) printed, ?_⟩
      change ((tree.readOptional driverRecord.read).bind fun driver =>
        (.ok { logging, policies, driver } : Except Json5.Misfit Config)) = .ok _ ↔ _
      simp only [Option.mem_some, forall_eq', ← read]
      cases tree.readOptional driverRecord.read <;> simp [Except.bind]

/-- A printed configuration without line ends in its texts is read as it was before printing exactly
if its limits are doubles. -/
theorem read_outline {config : Config} (legible : ∀ text ∈ config.texts, Legible text.toList) :
    ∃ tree, printedTree? config.outline = some tree ∧
      (sections.read tree = .ok config ↔ ∀ driver ∈ config.driver, ExactLimits driver) := by
  obtain ⟨result, driverMember, exact⟩ := reads_driver config
  have members : Reads sections [] sections.start
      ((config.logging.map fun logging => ("logging", loggingOutline logging)).toList ++
        ((config.policies.map fun policies => ("policies", policyOutline policies)).toList ++
          (config.driver.map fun driver => ("driver", driverOutline driver)).toList)) result := by
    refine Reads.optional (fun logging => ({ logging } : Config)) rfl (by decide) (by decide)
      (fun logging present => ?_) (Reads.optional
        (fun policies => ({ logging := config.logging, policies } : Config)) rfl (by decide)
        (by decide) (fun policies _ => ?_) driverMember)
    · have inSection : ∀ text ∈ loggingTexts logging, Legible text.toList := by
        rwa [texts, Option.mem_def.mp present] at legible
      obtain ⟨tree, printed, read⟩ := read_logging inSection
      exact ⟨tree, printed, read_into read⟩
    · obtain ⟨tree, printed, read⟩ := read_policies policies
      exact ⟨tree, printed, read_into read⟩
  obtain ⟨tree, printed, read, _⟩ := members.object
  refine ⟨tree, ?_, read ▸ exact⟩
  rw [outline, List.append_assoc]
  exact printed

/-! ### Outlines -/

theorem itemTexts_texts (texts : List String) : itemTexts (texts.map .str) = texts := by
  induction texts with
  | nil => rfl
  | cons text texts inductionHypothesis => simp [itemTexts, Json5.texts, inductionHypothesis]

theorem wholeItems_texts (texts : List String) : WholeItems (texts.map .str) := by
  induction texts with
  | nil => trivial
  | cons text texts inductionHypothesis => exact ⟨trivial, inductionHypothesis⟩

/-- The texts of an outline that do not depend on the configuration. -/
def names : List String :=
  ["logging", "policies", "driver", "format", "level", "filters", "output",
    "unhandled_runtime_exceptions", "console_api_calls", "timeout_ms", "max_sessions"] ++
    Policy.names

/-- A property of all names holds of the texts of an outline if it holds of the texts of the
configuration. -/
theorem forall_texts_outline {property : String → Prop} (named : ∀ name ∈ names, property name)
    (config : Config) :
    (∀ text ∈ Json5.texts config.outline, property text) ↔ ∀ text ∈ config.texts, property text := by
  have policyNamed : ∀ policy : Policy, property policy.name := by
    rintro (_ | _ | _) <;> exact named _ (by decide)
  simp only [names, Policy.names, List.cons_append, List.nil_append, List.forall_mem_cons] at named
  obtain ⟨_ | ⟨format, _ | level, filters, output⟩, _ | policies, _ | driver⟩ := config <;>
    simp [outline, loggingOutline, policyOutline, driverOutline, Json.word, Json5.texts, memberTexts,
      itemTexts_texts, texts, loggingTexts, named, policyNamed, or_imp, forall_and]

theorem whole_outline (config : Config) : Whole config.outline := by
  obtain ⟨_ | ⟨format, _ | level, filters, output⟩, _ | policies, _ | driver⟩ := config <;>
    simp [outline, loggingOutline, policyOutline, driverOutline, Json.word, Whole, WholeMembers,
      wholeItems_texts]

/-! ### Loading -/

theorem toList_saved (config : Config) : config.saved.toList = Json.prettyChars 0 config.outline := by
  rw [saved, Json.pretty, String.toList_ofList]

/-- A printed configuration is read as it was, if no reference is looked for, exactly if it is
representable. -/
theorem readBack_iff (config : Config) :
    (Json5.parse? config.saved.toList).map sections.read = some (.ok config) ↔
      config.Representable := by
  rw [toList_saved, Json5.parse?_pretty _ (whole_outline config)]
  constructor
  · intro back
    obtain ⟨tree, printed, read⟩ := Option.map_eq_some_iff.mp back
    have legible := (forall_texts_outline (by decide) config).mp
      (legible_of_printedTree? config.outline (by rw [printed]; rfl))
    obtain ⟨_, same, exact⟩ := read_outline legible
    obtain rfl := Option.some.inj (printed.symm.trans same)
    exact ⟨legible, exact.mp read⟩
  · rintro ⟨legible, exact⟩
    obtain ⟨tree, printed, read⟩ := read_outline legible
    rw [printed, Option.map_some, read.mpr exact]

/-- A file whose text substitution turns into a saved configuration is loaded as this configuration
exactly if it is representable. -/
theorem load_of_substitute {environment : Environment} {text : String} {config : Config}
    (same : substitute environment text.toList = config.saved.toList) :
    load environment (.bytes (Text.utf8 text)) = .ok config ↔ config.Representable := by
  rw [← readBack_iff, ← same]
  simp only [load, Text.ofUtf8?_utf8, ofText]
  cases Json5.parse? (substitute environment text.toList) with
  | none => simp
  | some tree => cases read : sections.read tree <;> simp [read]

/-- A text in the outline opens a reference if one in the configuration does; no name does. -/
theorem anyOpens_outline {config : Config} :
    Json5.AnyOpens (Json5.texts config.outline) ↔
      ∃ text ∈ config.texts, OpensReference text.toList := by
  have named : ∀ name ∈ names, ¬OpensReference name.toList := by
    have noDollar : ∀ name ∈ names, '$' ∉ name.toList := by decide
    exact fun name member => not_opensReference_of_not_mem (noDollar name member)
  have closed := forall_texts_outline named config
  simpa [Json5.AnyOpens] using not_congr closed

/-- A saved configuration without opened references is left as it is by every environment. -/
theorem substitute_saved {config : Config}
    (closed : ∀ text ∈ config.texts, ¬OpensReference text.toList) (environment : Environment) :
    substitute environment config.saved.toList = config.saved.toList := by
  have noneOpens : ¬Json5.AnyOpens (Json5.texts config.outline) := by
    rw [anyOpens_outline]
    rintro ⟨text, member, opens⟩
    exact closed text member opens
  rw [toList_saved]
  exact (Json5.settled_pretty config.outline 0 (whole_outline config) noneOpens).substitute_eq
    environment

/-- A saved configuration with an opened reference cannot be read with line breaks for references. -/
theorem load_saved_lineBreaking {config : Config}
    (opens : ∃ text ∈ config.texts, OpensReference text.toList) :
    load lineBreaking (.bytes (Text.utf8 config.saved)) = .error .configSyntax := by
  have inOutline := anyOpens_outline.mpr opens
  rw [load, Text.ofUtf8?_utf8]
  simp only [ofText, toList_saved, outline] at inOutline ⊢
  rw [Json5.parse?_lineBreaking (whole_outline config) inOutline]

/-- What every environment loads from the file of a configuration is this configuration exactly if it
is representable and none of its texts opens a reference. -/
theorem forall_load_saved_iff (config : Config) :
    (∀ environment, load environment (.bytes (Text.utf8 config.saved)) = .ok config) ↔
      config.Representable ∧ ∀ text ∈ config.texts, ¬OpensReference text.toList := by
  constructor
  · intro always
    have unchanged := substitute_selfReferring config.saved.toList
    refine ⟨(load_of_substitute unchanged).mp (always selfReferring), ?_⟩
    intro text member opens
    have broken := load_saved_lineBreaking ⟨text, member, opens⟩
    rw [always] at broken
    cases broken
  · rintro ⟨representable, closed⟩ environment
    exact (load_of_substitute (substitute_saved closed environment)).mpr representable

/-- A saved configuration is loaded as it was, whatever the environment holds, if its texts hold
neither line ends nor references and its limits have at most 53 bits. -/
theorem load_saved_of_lt {config : Config}
    (legible : ∀ text ∈ config.texts, Legible text.toList)
    (closed : ∀ text ∈ config.texts, ¬OpensReference text.toList)
    (small : ∀ driver ∈ config.driver,
      driver.timeout.toNat < twoTo 53 ∧ driver.maxSessions.toNat < twoTo 53)
    (environment : Environment) :
    load environment (.bytes (Text.utf8 config.saved)) = .ok config :=
  (forall_load_saved_iff config).mpr ⟨representable_of_lt legible small, closed⟩ environment

/-- Printed text is read back exactly for a representable configuration; and a saved configuration is
loaded as it was, whatever the environment holds, exactly if it is representable and none of its texts
opens a reference. -/
theorem loaded_as_saved_iff (config : Config) :
    ((Json5.parse? config.saved.toList).map sections.read = some (.ok config) ↔
        config.Representable) ∧
      ((∀ environment, load environment (.bytes (Text.utf8 config.saved)) = .ok config) ↔
        config.Representable ∧ ∀ text ∈ config.texts, ¬OpensReference text.toList) :=
  ⟨readBack_iff config, forall_load_saved_iff config⟩

/-- A reference that was saved as text is replaced: an unset variable leaves nothing of it. -/
theorem saved_reference_replaced :
    let config : Config := { logging := some { format := "$\x7bX\x7d" } }
    let loaded : Config := { logging := some { format := "" } }
    (Json5.parse? config.saved.toList).map sections.read = some (.ok config) ∧
      load (fun _ => none) (.bytes (Text.utf8 config.saved)) = .ok loaded ∧ loaded ≠ config := by
  intro config loaded
  have emptied : substitute (fun _ => none) config.saved.toList = loaded.saved.toList := by
    cbv
  exact ⟨(readBack_iff config).mpr (by decide), (load_of_substitute emptied).mpr (by decide),
    by decide⟩

end Dialogue.Config

import Dialogue.Proofs.Script.Declared
/-!
# The parts of loading

The options of `navigate` add parts to it that do not depend on each other: a cookie is set, then an
address or a document is loaded, then an expression is awaited.  A part is what the script consists
of under the option alone.  The scripts that capture content load it first: they begin with the
steps of `navigate` under the same options, and none of those captures or returns anything.
-/

namespace Dialogue.Protocol

/-- The steps that set a cookie. -/
def cookieSteps : List Step :=
  navigate.steps (.ofList [("cookie", .null)])

/-- The steps that load an address. -/
def addressSteps : List Step :=
  navigate.steps (.ofList [("source_type", .str "url")])

/-- The steps that load a document. -/
def documentSteps : List Step :=
  navigate.steps (.ofList [("source_type", .str "html")])

/-- The steps that await an expression. -/
def waitingSteps : List Step :=
  navigate.steps (.ofList [("wait_for", .null)])

/-- The steps that load what the options name. -/
def sourceSteps (options : Options) : List Step :=
  (if guardHolds options "source_type" (some [.str "url"]) then addressSteps else []) ++
    (if guardHolds options "source_type" (some [.str "html"]) then documentSteps else [])

/-- The scripts that load content. -/
def loadingScripts : List Script :=
  [navigate, printToPdf, captureScreenshot]

/-- The methods whose calls capture content. -/
def captureMethods : List String :=
  ["Page.printToPDF", "Page.captureScreenshot"]

variable {options : Options}

theorem guardHolds_none (options : Options) (key : String) :
    guardHolds options key none = options.contains key := by
  rw [Table.contains]
  cases found : options.get? key <;> simp [guardHolds, found]

theorem guardHolds_single {key : String} {value : Json} (given : options.get? key = some value)
    (allowed : Json) : guardHolds options key (some [allowed]) = (allowed == value) := by
  simp [guardHolds, given]

theorem sourceSteps_of_url (source : options.get? "source_type" = some (.str "url")) :
    sourceSteps options = addressSteps := by
  rw [sourceSteps, guardHolds_single source, guardHolds_single source]
  exact List.append_nil _

theorem sourceSteps_of_html (source : options.get? "source_type" = some (.str "html")) :
    sourceSteps options = documentSteps := by
  rw [sourceSteps, guardHolds_single source, guardHolds_single source]
  exact List.nil_append _

/-- Loading has its parts one after the other, each if its option is there. -/
theorem navigate_steps (options : Options) :
    navigate.steps options =
      (if options.contains "cookie" then cookieSteps else []) ++
        (sourceSteps options ++ (if options.contains "wait_for" then waitingSteps else [])) := by
  rw [Script.steps, navigate, sourceSteps, ← guardHolds_none, ← guardHolds_none]
  simp only [scanElements, scan_cons, Element.awaitResponse, Element.awaitNotification,
    Element.steps]
  -- Under known guards both sides are closed terms up to the options, which no step mentions.
  cases guardHolds options "cookie" none <;>
    cases guardHolds options "source_type" (some [.str "url"]) <;>
    cases guardHolds options "source_type" (some [.str "html"]) <;>
    cases guardHolds options "wait_for" none <;> rfl

/-- Content is loaded first, and what follows does not depend on the options. -/
theorem steps_eq_append {script : Script} (loads : script ∈ loadingScripts) (options : Options) :
    script.steps options = navigate.steps options ++ script.steps .empty := by
  simp only [loadingScripts, List.mem_cons, List.not_mem_nil, or_false] at loads
  rcases loads with rfl | rfl | rfl
  · exact (List.append_nil _).symm
  · rfl
  · rfl

theorem mem_catalog_of_mem_loadingScripts {script : Script} (loads : script ∈ loadingScripts) :
    script ∈ catalog := by
  simp only [loadingScripts, List.mem_cons, List.not_mem_nil, or_false] at loads
  rcases loads with rfl | rfl | rfl <;> simp [catalog]

/-- No step of loading returns anything or calls a method that captures. -/
theorem not_captures_of_mem_navigate {step : Step} (member : step ∈ navigate.steps options) :
    step.action.kind ≠ "output" ∧ ∀ method ∈ captureMethods, step.method? ≠ some method := by
  have checked : ∀ step ∈ declaredSteps navigate.elements,
      step.action.kind ≠ "output" ∧ ∀ method ∈ captureMethods, step.method? ≠ some method := by
    decide
  exact checked step ((steps_sublist_declaredSteps navigate options).subset member)

/-- Loading comes before every step that is not a part of it. -/
theorem navigate_prefix_of_mem {script : Script} (loads : script ∈ loadingScripts)
    {done rest : List Step} (same : script.steps options = done ++ rest) {step : Step}
    (member : step ∈ done) (other : step ∉ navigate.steps options) :
    navigate.steps options <+: done := by
  have loading : navigate.steps options <+: script.steps options :=
    steps_eq_append loads options ▸ List.prefix_append _ _
  have completed : done <+: script.steps options := same ▸ List.prefix_append _ _
  rcases List.prefix_or_prefix_of_prefix loading completed with early | late
  · exact early
  · exact absurd (late.subset member) other

end Dialogue.Protocol

import Dialogue.Proofs.Interception
import Dialogue.Proofs.Path
/-!
# What a raised exception is described by

Two members of an exception's parameters can describe it: the description of the exception object and
the text of the details.  Which of them is asked is settled by presence alone: if the description is
there, it is the description that is asked, also if it is no text and can describe nothing.  So a
text of the details is passed over for a description that is null, and this is the only case in
which the description of an exception is not the first of the two that is a text.
-/

namespace Dialogue

namespace RuntimeEvent

/-- The path to the description of the exception object. -/
def descriptionPath : List String := ["exceptionDetails", "exception", "description"]

/-- The path to the text of the details. -/
def textPath : List String := ["exceptionDetails", "text"]

variable {params : Json} {text : String}

/-- The description is the first of the two members that is there, if that is a text. -/
theorem description_eq (params : Json) :
    description params =
      (((params.at? descriptionPath).or (params.at? textPath)).bind Json.asString?).getD
        "unknown exception" := by
  have details (rest : List String) : params.at? ("exceptionDetails" :: rest) =
      (params.field? "exceptionDetails").bind (·.at? rest) :=
    Json.at?_cons_of_name rfl params rest
  have told : (fun details : Json => details.at? ["text"]) = (·.field? "text") :=
    funext (Json.at?_singleton rfl)
  rw [description, descriptionPath, textPath, details, details, told]

/-- How an exception with these parameters is described. -/
inductive Described (params : Json) : String → Prop where
  | named {text : String} (given : params.at? descriptionPath = some (.str text)) :
      Described params text
  | told {text : String} (absent : params.at? descriptionPath = none)
      (given : params.at? textPath = some (.str text)) : Described params text
  /-- A description that is no text describes nothing, whatever the text of the details says. -/
  | obscured {value : Json} (present : params.at? descriptionPath = some value)
      (noText : value.asString? = none) : Described params "unknown exception"
  | untold (absent : params.at? descriptionPath = none)
      (noText : (params.at? textPath).bind Json.asString? = none) :
      Described params "unknown exception"

/-- What is found is read as a text exactly if it is that text. -/
theorem bind_asString?_eq_some_iff {found : Option Json} :
    found.bind Json.asString? = some text ↔ found = some (.str text) := by
  cases found with
  | none => simp
  | some value => cases value <;> simp [Json.asString?]

/-- An exception has one description, and it is the one that is given. -/
theorem described_iff : Described params text ↔ text = description params := by
  rw [description_eq]
  constructor
  · intro described
    cases described with
    | named given => rw [given]; rfl
    | told absent given => rw [absent, given]; rfl
    | obscured present noText => rw [present, Option.some_or, Option.bind_some, noText]; rfl
    | untold absent noText => rw [absent, Option.none_or, noText]; rfl
  · rintro rfl
    cases present : params.at? descriptionPath with
    | some value =>
        rw [Option.some_or]
        cases read : (some value).bind Json.asString? with
        | none => exact .obscured present read
        | some text => exact .named (present.trans (bind_asString?_eq_some_iff.mp read))
    | none =>
        rw [Option.none_or]
        cases read : (params.at? textPath).bind Json.asString? with
        | none => exact .untold present read
        | some text => exact .told present (bind_asString?_eq_some_iff.mp read)

/-- The first of the two members that is a text. -/
def firstText? (params : Json) : Option String :=
  ((params.at? descriptionPath).bind Json.asString?).or
    ((params.at? textPath).bind Json.asString?)

/-- A description that is no text stands before a text that would say more. -/
def Obscured (params : Json) : Prop :=
  ∃ value text, params.at? descriptionPath = some value ∧ value.asString? = none ∧
    params.at? textPath = some (.str text) ∧ text ≠ "unknown exception"

/-- An exception is described by the first of the two members that is a text, unless this text is
obscured. -/
theorem description_eq_firstText?_iff :
    description params = (firstText? params).getD "unknown exception" ↔ ¬Obscured params := by
  have described : Described params (description params) := described_iff.mpr rfl
  constructor
  · rintro same ⟨value, text, present, noText, given, telling⟩
    have unknown : "unknown exception" = description params :=
      described_iff.mp (.obscured present noText)
    have first : firstText? params = some text := by
      rw [firstText?, present, Option.bind_some, noText, given]
      rfl
    rw [← unknown, first] at same
    exact telling same.symm
  · intro clear
    generalize description params = text at described
    cases described with
    | named given => rw [firstText?, given]; rfl
    | told absent given => rw [firstText?, absent, given]; rfl
    | untold absent noText => rw [firstText?, absent, noText]; rfl
    | @obscured value present noText =>
        rw [firstText?, present, Option.bind_some, noText, Option.none_or]
        cases read : (params.at? textPath).bind Json.asString? with
        | none => rfl
        | some text =>
            -- The text of the details is clear only if it says no more than the default.
            have given := bind_asString?_eq_some_iff.mp read
            refine Classical.byContradiction fun differs => ?_
            exact clear ⟨value, text, present, noText, given, fun same => differs same.symm⟩

end RuntimeEvent

open RuntimeEvent

/-- A raised exception is described by the first of its two members that is there.  Under a policy
that raises exceptions, whatever is awaited, an exception of the session fails the run with a
description that its parameters settle: the description of the exception object if that is a text;
the text of the details if there is no such description and the details have a text; and in all other
cases the exception is unknown.  This is the first of the two members that is a text, if there is
one, except where a description that is no text stands before a text. -/
theorem raised_exception_described (handler : AwaitHandler) (state : State) (params : Json)
    (raises : Policy.ofState state Policy.exceptionKey Policy.exceptionDefault = .raise) :
    ∃ text,
      handler.offer state (.notification exceptionMethod params state.sessionId?) =
        .ok (.failed (.exceptionThrown text)) ∧
      (∀ other, Described params other ↔ other = text) ∧
      (text = (firstText? params).getD "unknown exception" ↔ ¬Obscured params) := by
  refine ⟨description params, ?_, fun other => described_iff, description_eq_firstText?_iff⟩
  have policy : (exception params).policy state = .raise := raises
  have decided := handler.offer_event state (.exception params)
  rw [policy] at decided
  exact decided

/-- An exception whose description is null, though its details have a text. -/
def nullDescription : Json :=
  .object [("exceptionDetails", .object
    [("exception", .object [("description", .null)]), ("text", .str "Uncaught")])]

/-- The text of the details is passed over for a description that is null. -/
theorem nullDescription_raised :
    (AwaitHandler.response {}).offer raisingState
        (.notification exceptionMethod nullDescription (some "S")) =
      .ok (.failed (.exceptionThrown "unknown exception")) := by
  obtain ⟨text, raised, described, _⟩ :=
    raised_exception_described (.response {}) raisingState nullDescription (by decide)
  have present : nullDescription.at? descriptionPath = some .null := rfl
  have unknown : "unknown exception" = text := (described _).mp (.obscured present rfl)
  rw [unknown]
  exact raised

/-- An exception is not always described by the first of its members that is a text. -/
theorem first_text_not_always_raised :
    ¬∀ (handler : AwaitHandler) (state : State) (params : Json),
      Policy.ofState state Policy.exceptionKey Policy.exceptionDefault = .raise →
      handler.offer state (.notification exceptionMethod params state.sessionId?) =
        .ok (.failed (.exceptionThrown ((firstText? params).getD "unknown exception"))) := by
  intro always
  have claimed := always (.response {}) raisingState nullDescription (by decide)
  injection claimed with reaction
  injection reaction with failure
  injection failure with same
  exact absurd same (by decide)

end Dialogue

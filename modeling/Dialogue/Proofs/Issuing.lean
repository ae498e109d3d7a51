import Dialogue.Proofs.Extraction
import Dialogue.Proofs.Frame
/-!
# What is issued

A call takes its parameters from three places.  Specifiers name paths of the state, or a rule
computes them from the state, and what neither gives is taken from the defaults of the call.  The
defaults are no help where a path leads nowhere: the call is then refused, and the error names the
path.  A path of the state begins with one of its keys, so the empty path, which leads to the whole
value elsewhere, leads nowhere here.

All that issuing a call changes in the state is the id of the last call.
-/

namespace Dialogue

open KeySpec

/-- The path leads from one of the keys of the state to a value. -/
def KeySpec.Resolves (spec : KeySpec) (state : State) : Prop :=
  spec.path ≠ [] ∧ (state.toJson.at? spec.path).isSome

instance (spec : KeySpec) (state : State) : Decidable (spec.Resolves state) :=
  inferInstanceAs (Decidable (_ ∧ _))

namespace ParamSource

/-- The source yields parameters. -/
def Resolves (source : ParamSource) (state : State) : Prop :=
  match source with
  | .keys specs => ∀ spec ∈ specs, spec.Resolves state
  | .computed rule => ∃ yielded, rule state = .ok yielded

/-- The source yields none, for this cause: the first path that leads nowhere, or what the rule
says. -/
def Refuses (source : ParamSource) (state : State) (cause : ScriptError) : Prop :=
  match source with
  | .keys specs =>
      ∃ before spec after, specs = before ++ spec :: after ∧
        (∀ earlier ∈ before, earlier.Resolves state) ∧ ¬spec.Resolves state ∧
        cause = .missingPath spec.path "state"
  | .computed rule => rule state = .error cause

/-- What the source has for a parameter: the value at the path of the last specifier with that flat
key, or what the rule yields for it. -/
def value? (source : ParamSource) (state : State) (key : String) : Option Json :=
  match source with
  | .keys specs => (lastFor? key specs).bind fun spec => state.toJson.at? spec.path
  | .computed rule =>
      match rule state with
      | .ok yielded => yielded.get? key
      | .error _ => none

/-- The rule, if the source is one, yields entries in the order of their keys. -/
def Orderly (source : ParamSource) (state : State) : Prop :=
  ∀ rule, source = .computed rule → ∀ yielded, rule state = .ok yielded → yielded.Ascending

end ParamSource

/-- What comes of issuing a call. -/
structure Issued (spec : CallSpec) (state : State) (id : CallId) (next : State) (call : Call) :
    Prop where
  method : call.method = spec.method
  params : ∀ key,
    call.params.get? key = (spec.params.value? state key).or (spec.defaults.get? key)
  session : call.sessionId =
    match state.get? sessionIdKey with
    | some (.str session) => some session
    | _ => none
  lastCall : next.lastCallId? = some id
  others : ∀ key, key ≠ lastCallIdKey → next.get? key = state.get? key

variable {source : ParamSource} {state next : State} {spec : KeySpec} {key : String}
  {yielded : Table Json} {cause : ScriptError}

/-! ### Paths of the state -/

theorem KeySpec.resolves_iff : spec.Resolves state ↔ (state.at? spec.path).isSome := by
  rw [KeySpec.Resolves]
  by_cases empty : spec.path = []
  · simp [empty, State.at?]
  · simp [empty, state.at?_eq empty]

/-! ### What a source yields -/

namespace ParamSource

/-- A source resolves exactly where it yields a table. -/
theorem resolves_iff : source.Resolves state ↔ ∃ yielded, source.resolve state = .ok yielded := by
  cases source with
  | keys specs => simp [Resolves, resolve, KeySpec.resolves_iff, collectParams_eq_ok_iff]
  | computed rule => rfl

/-- A source refuses for the cause that resolving it comes to. -/
theorem refuses_iff : source.Refuses state cause ↔ source.resolve state = .error cause := by
  cases source with
  | keys specs =>
      rw [resolve, collectParams_eq_error_iff]
      constructor
      · rintro ⟨before, spec, after, split, earlier, missing, named⟩
        have found : ∀ spec ∈ before, (state.at? spec.path).isSome := fun spec member =>
          KeySpec.resolves_iff.mp (earlier spec member)
        rw [KeySpec.resolves_iff, Option.not_isSome_iff_eq_none] at missing
        exact ⟨spec, firstMissing?_eq_some_iff.mpr ⟨before, after, split, found, missing⟩, named⟩
      · rintro ⟨spec, first, named⟩
        obtain ⟨before, after, split, found, missing⟩ := firstMissing?_eq_some_iff.mp first
        refine ⟨before, spec, after, split, fun earlier member => ?_, ?_, named⟩
        · exact KeySpec.resolves_iff.mpr (found earlier member)
        · rw [KeySpec.resolves_iff, missing]
          exact Bool.false_ne_true
  | computed rule => rfl

/-- What a source yields for a parameter. -/
theorem get?_of_resolve (resolved : source.resolve state = .ok yielded) (key : String) :
    yielded.get? key = source.value? state key := by
  cases source with
  | computed rule =>
      rw [resolve] at resolved
      rw [value?, resolved]
  | keys specs =>
      obtain ⟨complete, rfl⟩ := collectParams_eq_ok_iff.mp resolved
      rw [get?_insertAll_gathered complete, value?]
      cases last : lastFor? key specs with
      | none => rfl
      | some spec =>
          have found := complete spec (of_lastFor?_eq_some last).1
          exact state.at?_eq (KeySpec.resolves_iff.mpr found).1

/-- What a source yields has its entries in order: specifiers enter them one after the other. -/
theorem ascending_of_resolve (orderly : source.Orderly state)
    (resolved : source.resolve state = .ok yielded) : yielded.Ascending := by
  cases source with
  | computed rule => exact orderly rule rfl yielded resolved
  | keys specs =>
      obtain ⟨_, rfl⟩ := collectParams_eq_ok_iff.mp resolved
      exact .ofList _

end ParamSource

/-! ### Issuing -/

/-- A call is issued exactly where its source yields parameters. -/
theorem exists_issue_iff {spec : CallSpec} {id : CallId} :
    (∃ next call, spec.issue state id = .ok (next, call)) ↔ spec.params.Resolves state := by
  rw [ParamSource.resolves_iff, CallSpec.issue, resolveParams]
  cases spec.params.resolve state with
  | ok yielded => simp [bind, Except.bind, pure, Except.pure]
  | error cause => simp [bind, Except.bind]

/-- The session of a state is the text at its key. -/
theorem State.sessionId?_eq (state : State) :
    state.sessionId? =
      match state.get? sessionIdKey with
      | some (.str session) => some session
      | _ => none := by
  rw [State.sessionId?]
  cases state.get? sessionIdKey with
  | none => rfl
  | some value => cases value <;> rfl

/-- Issuing a call resolves its parameters and notes its id.  For every call, state and id: the call
is issued exactly where its source resolves, which is to say that every specifier's path begins with
a key of the state and leads to a value, or that the rule yields a table.  Each parameter of the call
then has what the source has for it, else its default, else nothing; its session is the text that
the state has for one; and the state is as it was but for the id of the last call, which reads back
as the one that was given.  If the source does not resolve, the cause is the rule's own, or the first
path that leads nowhere in the state, whatever the defaults are.  A rule yields its entries in order,
as every table has them that is built. -/
theorem issuing_resolves_parameters (spec : CallSpec) (state : State) (id : CallId)
    (orderly : spec.params.Orderly state) :
    ((∃ next call, spec.issue state id = .ok (next, call)) ↔ spec.params.Resolves state) ∧
    (∀ next call, spec.issue state id = .ok (next, call) → Issued spec state id next call) ∧
    (∀ cause, spec.issue state id = .error cause ↔ spec.params.Refuses state cause) := by
  refine ⟨exists_issue_iff, fun next call issued => ?_, fun cause => ?_⟩
  · obtain ⟨params, resolved, rfl, rfl⟩ := issue_eq_ok issued
    obtain ⟨yielded, found, rfl⟩ := resolveParams_eq_ok resolved
    have ascending := ParamSource.ascending_of_resolve orderly found
    exact
      { method := rfl
        params := by
          intro key
          rw [ascending.get?_overlay, ParamSource.get?_of_resolve found]
        session := state.sessionId?_eq
        lastCall := State.lastCallId?_insert state id
        others := fun key other => get?_issue issued other }
  · rw [issue_eq_error_iff, resolveParams_eq_error_iff, ParamSource.refuses_iff]

/-- A run in some session that has been to one page and knows of another. -/
def visitedState : State :=
  ⟨.ofList
    [("url", .str "https://a.example"), ("links", .arr [.object [("href", .str "https://b.example")]]),
      (sessionIdKey, .str "S1")]⟩

/-- A call that goes where the last of two specifiers says. -/
def followLink : CallSpec where
  method := "Page.navigate"
  params := .keys [.bare "url", .mapped "url" ["links", "0", "href"]]
  defaults := .ofList [("transitionType", .str "link"), ("url", .str "about:blank")]

/-- The link is followed under the greatest id that there is.  Without a path to it the call is
refused, although there is a default for its parameter; and if a rule computes that parameter, the
rule goes before the default. -/
theorem followLink_issued :
    (∃ next call, followLink.issue visitedState 18446744073709551615 = .ok (next, call) ∧
      call.params.get? "url" = some (.str "https://b.example") ∧
      call.params.get? "transitionType" = some (.str "link") ∧
      call.params.get? "referrer" = none ∧ call.sessionId = some "S1" ∧
      next.lastCallId? = some 18446744073709551615 ∧
      next.get? "url" = some (.str "https://a.example")) ∧
    { followLink with params := .keys [.bare "url", .mapped "url" []] }.issue visitedState 1 =
      .error (.missingPath [] "state") ∧
    ∃ next call,
      { followLink with params := .computed fun _ => .ok (.ofList [("url", .null)]) }.issue
        visitedState 1 = .ok (next, call) ∧ call.params.get? "url" = some .null := by
  let pathless : CallSpec := { followLink with params := .keys [.bare "url", .mapped "url" []] }
  let ruled : CallSpec :=
    { followLink with params := .computed fun _ => .ok (.ofList [("url", .null)]) }
  obtain ⟨succeeds, issues, _⟩ :=
    issuing_resolves_parameters followLink visitedState 18446744073709551615
      (fun rule impossible => by cases impossible)
  obtain ⟨_, _, refuses⟩ := issuing_resolves_parameters pathless visitedState 1
    (fun rule impossible => by cases impossible)
  obtain ⟨succeedsByRule, issuesByRule, _⟩ := issuing_resolves_parameters ruled visitedState 1
    (by rintro rule ⟨⟩ yielded ⟨⟩; exact .ofList _)
  refine ⟨?_, ?_, ?_⟩
  · have resolves : ∀ spec ∈ [KeySpec.bare "url", .mapped "url" ["links", "0", "href"]],
        spec.Resolves visitedState := by decide
    obtain ⟨next, call, issued⟩ := succeeds.mpr resolves
    have made := issues next call issued
    exact ⟨next, call, issued, made.params "url", made.params "transitionType",
      made.params "referrer", made.session, made.lastCall, made.others "url" (by decide)⟩
  · exact (refuses _).mpr ⟨[.bare "url"], .mapped "url" [], [], rfl, by decide, by decide, rfl⟩
  · obtain ⟨next, call, issued⟩ := succeedsByRule.mpr ⟨_, rfl⟩
    exact ⟨next, call, issued, (issuesByRule next call issued).params "url"⟩

end Dialogue

import Dialogue.Cli.Program
import Dialogue.Proofs.Interception
import Dialogue.Proofs.Run.Transparency
import Dialogue.Proofs.Script.Guards
import Dialogue.Proofs.Table.Ascending
/-!
# Which policy an event meets

Options may name a policy for an event, the configuration names one where they do not, and without a
section for policies there is the default.  What the options say stands even if it names no policy:
then the event meets the default, not the policy of the configuration.

The policies are filled in before the session is set and the default ones after it, but they are
values of other keys, so all this amounts to filling them into the options of the session.  No guard
of a built-in script asks for them and no step extracts into them.  So the configuration has no part
in which steps there are, and an event meets the same policy throughout a run.
-/

namespace Dialogue

/-- The policy of a configuration for an event. -/
def PolicyConfig.policyFor (policies : PolicyConfig) : RuntimeEvent → Policy
  | .exception _ => policies.exceptions
  | .console _ => policies.consoleCalls

/-- The policy that an event meets: the one that the options name, where a value that names none
means the default, else the one of the configuration. -/
def Config.policyFor (config : Config) (options : Options) (event : RuntimeEvent) : Policy :=
  match options.get? event.policyKey with
  | some value => (Policy.ofJson? value).getD event.defaultPolicy
  | none =>
      match config.policies with
      | some policies => policies.policyFor event
      | none => event.defaultPolicy

/-- The options with the session that an instance is made for. -/
def Options.scopedTo (options : Options) (session : Option String) : Options :=
  match session with
  | some session => options.insert sessionIdKey (.str session)
  | none => options

variable {options : Options} {session : Option String} {key : String}

/-- Setting the session leaves all other options as they are. -/
theorem get?_scopedTo_of_ne (options : Options) (other : session = none ∨ key ≠ sessionIdKey) :
    (options.scopedTo session).get? key = options.get? key := by
  cases session with
  | none => rfl
  | some session =>
      rcases other with none | other
      · cases none
      · exact Table.get?_insert_of_ne options other (.str session)

/-- An instance for a session is one for the options of the session. -/
theorem forOptionalSession_eq (script : Script) (session : Option String) (options : Options) :
    Instance.forOptionalSession script session options =
      .new script (options.scopedTo session) := by
  cases session <;> rfl

/-! ### Filling in policies -/

/-- The policies are not values that a run sets by itself. -/
theorem policyKey_ne (event : RuntimeEvent) :
    event.policyKey ≠ sessionIdKey ∧ event.policyKey ≠ lastCallIdKey := by
  have exceptions : Policy.exceptionKey ≠ sessionIdKey ∧ Policy.exceptionKey ≠ lastCallIdKey := by
    decide
  have console : Policy.consoleKey ≠ sessionIdKey ∧ Policy.consoleKey ≠ lastCallIdKey := by
    decide
  cases event with
  | exception => exact exceptions
  | console => exact console

namespace PolicyConfig

variable (policies : PolicyConfig)

/-- Reading after filling in: a policy has its key unless the options had a value for it. -/
theorem get?_applyDefaults (options : Options) (key : String) :
    (policies.applyDefaults options).get? key =
      if key = Policy.consoleKey then
        some ((options.get? key).getD (.str policies.consoleCalls.name))
      else if key = Policy.exceptionKey then
        some ((options.get? key).getD (.str policies.exceptions.name))
      else options.get? key := by
  have different : Policy.consoleKey ≠ Policy.exceptionKey := by decide
  rw [applyDefaults, Table.get?_insertIfAbsent, Table.get?_insertIfAbsent,
    Table.get?_insertIfAbsent, if_neg different]
  by_cases console : key = Policy.consoleKey
  · rw [if_pos console, if_pos console, console]
  · rw [if_neg console, if_neg console]
    by_cases exception : key = Policy.exceptionKey
    · rw [if_pos exception, if_pos exception, exception]
    · rw [if_neg exception, if_neg exception]

theorem get?_applyDefaults_policyKey (options : Options) (event : RuntimeEvent) :
    (policies.applyDefaults options).get? event.policyKey =
      some ((options.get? event.policyKey).getD (.str (policies.policyFor event).name)) := by
  rw [get?_applyDefaults]
  cases event <;> rfl

/-- An option that is given is not replaced. -/
theorem get?_applyDefaults_of_some {value : Json} (given : options.get? key = some value) :
    (policies.applyDefaults options).get? key = some value := by
  rw [get?_applyDefaults, given]
  split
  · rfl
  · split <;> rfl

theorem get?_applyDefaults_of_ne (options : Options) (exceptions : key ≠ Policy.exceptionKey)
    (console : key ≠ Policy.consoleKey) :
    (policies.applyDefaults options).get? key = options.get? key := by
  rw [get?_applyDefaults, if_neg console, if_neg exceptions]

theorem ascending_applyDefaults (ascending : options.Ascending) :
    (policies.applyDefaults options).Ascending :=
  (ascending.insertIfAbsent _ _).insertIfAbsent _ _

/-- The policies may be filled in before the session is set or after it. -/
theorem scopedTo_applyDefaults (ascending : options.Ascending) (session : Option String) :
    Options.scopedTo (policies.applyDefaults options) session =
      policies.applyDefaults (options.scopedTo session) := by
  cases session with
  | none => rfl
  | some session =>
      refine Table.Ascending.ext ((policies.ascending_applyDefaults ascending).insert _ _)
        (policies.ascending_applyDefaults (ascending.insert _ _)) fun key => ?_
      have exceptions : sessionIdKey ≠ Policy.exceptionKey := by decide
      have console : sessionIdKey ≠ Policy.consoleKey := by decide
      simp only [Options.scopedTo, get?_applyDefaults, Table.get?_insert]
      by_cases same : key = sessionIdKey
      · simp [same, exceptions, console]
      · simp [same]

/-- Where the policies are filled in the initial state has no others. -/
theorem initialState_applyDefaults (options : Options) :
    initialState (policies.applyDefaults options) = ⟨policies.applyDefaults options⟩ := by
  have named (event : RuntimeEvent) :
      (policies.applyDefaults options).contains event.policyKey = true := by
    rw [Table.contains, policies.get?_applyDefaults_policyKey]
    rfl
  have exceptions : (policies.applyDefaults options).contains Policy.exceptionKey = true :=
    named (.exception .null)
  have console : (policies.applyDefaults options).contains Policy.consoleKey = true :=
    named (.console .null)
  simp only [initialState, Table.insertIfAbsent, exceptions, console, if_true]

/-- What an event meets in a state that the policies were filled into. -/
theorem policy_applyDefaults (options : Options) (event : RuntimeEvent) :
    event.policy ⟨policies.applyDefaults options⟩ =
      match options.get? event.policyKey with
      | some value => (Policy.ofJson? value).getD event.defaultPolicy
      | none => policies.policyFor event := by
  rw [RuntimeEvent.policy_eq, Policy.ofState, State.get?, get?_applyDefaults_policyKey]
  cases options.get? event.policyKey <;> simp [Policy.ofJson?]

end PolicyConfig

/-! ### The instances that are built -/

/-- No guard of a built-in script asks for a policy. -/
theorem guardKeys_spare_policies {script : Script} (member : script ∈ Protocol.catalog) :
    ∀ key ∈ guardKeys script.elements, key ≠ Policy.exceptionKey ∧ key ≠ Policy.consoleKey := by
  have checked : ∀ script ∈ Protocol.catalog, ∀ key ∈ guardKeys script.elements,
      key ≠ Policy.exceptionKey ∧ key ≠ Policy.consoleKey := by
    decide
  exact checked script member

/-- A built-in script has the same steps whatever policies are filled in. -/
theorem steps_applyDefaults {script : Script} (member : script ∈ Protocol.catalog)
    (policies : PolicyConfig) (options : Options) :
    script.steps (policies.applyDefaults options) = script.steps options := by
  refine steps_congr_of_guardKeys fun key guard => ?_
  obtain ⟨exceptions, console⟩ := guardKeys_spare_policies member key guard
  exact .of_get?_eq (policies.get?_applyDefaults_of_ne options exceptions console)

/-- Throughout a run of a built-in script an event meets the policy that it meets at the start. -/
theorem policy_of_reaches {script : Script} (member : script ∈ Protocol.catalog) {link : Link}
    {state : State} {firstId : CallId} {queue : List Arrival} {moment : Moment}
    (reached : Reaches link (Instance.start ⟨script, script.steps options, state⟩ firstId queue)
      moment) (event : RuntimeEvent) :
    event.policy moment.state = event.policy state := by
  have spared : Spares event.policyKey (script.steps options) := by
    obtain ⟨exceptions, console⟩ := spares_policies_of_mem_catalog member options
    cases event with
    | exception => exact exceptions
    | console => exact console
  exact RuntimeEvent.policy_congr (get?_of_reaches (policyKey_ne event).2 spared reached)

/-- A built-in script is found by its name. -/
theorem exists_byName?_of_mem_names {name : String} (builtIn : name ∈ Protocol.names) :
    ∃ script ∈ Protocol.catalog, Protocol.byName? name = some script := by
  obtain ⟨listed, member, rfl⟩ := List.mem_map.mp builtIn
  cases found : Protocol.byName? listed.name with
  | none => exact absurd (List.find?_eq_none.mp found listed member) (by simp)
  | some script => exact ⟨script, List.mem_of_find?_eq_some found, rfl⟩

/-- What an instance of a script owes to the configuration, the session and the options that it is
built from. -/
structure BuiltFrom (config : Config) (script : Script) (session : Option String)
    (options : Options) (subject : Instance) : Prop where
  /-- An event meets the same policy throughout the run, and fares as that policy says. -/
  met : ∀ (link : Link) (firstId : CallId) (queue : List Arrival) (moment : Moment),
    Reaches link (subject.start firstId queue) moment → ∀ event : RuntimeEvent,
      event.policy moment.state = config.policyFor options event ∧
      ∀ handler : AwaitHandler,
        handler.offer moment.state (event.message moment.state.sessionId?) =
          .ok (event.reaction moment.state (config.policyFor options event))
  /-- The configuration replaces no option that is given. -/
  given : ∀ key value, session = none ∨ key ≠ sessionIdKey → options.get? key = some value →
    subject.state.get? key = some value
  /-- All options but the policies reach the state as they are, absent ones included. -/
  others : ∀ key, key ≠ Policy.exceptionKey → key ≠ Policy.consoleKey →
    session = none ∨ key ≠ sessionIdKey → subject.state.get? key = options.get? key
  /-- The session is the one that is given, whatever the options say. -/
  inSession : ∀ id, session = some id → subject.state.get? sessionIdKey = some (.str id)
  /-- The configuration has no part in which steps there are. -/
  steps : subject.steps = (Instance.forOptionalSession script session options).steps
  /-- Without a section for policies the configuration makes no difference. -/
  unconfigured : config.policies = none →
    subject = Instance.forOptionalSession script session options

/-- An instance for options with the policies filled in has them filled into the options of its
session, and its steps are those of the options alone. -/
theorem forOptionalSession_applyDefaults {script : Script} (member : script ∈ Protocol.catalog)
    (policies : PolicyConfig) (ascending : options.Ascending) (session : Option String) :
    Instance.forOptionalSession script session (policies.applyDefaults options) =
      ⟨script, script.steps (options.scopedTo session),
        ⟨policies.applyDefaults (options.scopedTo session)⟩⟩ := by
  rw [forOptionalSession_eq, policies.scopedTo_applyDefaults ascending, Instance.new,
    steps_applyDefaults member, policies.initialState_applyDefaults]

/-- With the policies of a configuration filled into the options of a session an event meets the
policy that is meant for it. -/
theorem policyFor_eq_policy (config : Config) (options : Options) (session : Option String)
    (event : RuntimeEvent) :
    config.policyFor options event =
      event.policy ⟨config.effectivePolicies.applyDefaults (options.scopedTo session)⟩ := by
  rw [PolicyConfig.policy_applyDefaults,
    get?_scopedTo_of_ne options (.inr (policyKey_ne event).1), Config.policyFor,
    Config.effectivePolicies]
  cases config.policies with
  | none => cases event <;> rfl
  | some policies => rfl

/-- The instance that is made of a built-in script keeps to what it is built from. -/
theorem builtFrom_of_mem_catalog {script : Script} (member : script ∈ Protocol.catalog)
    (config : Config) (ascending : options.Ascending) (session : Option String) :
    BuiltFrom config script session options
      (Instance.forOptionalSession script session
        (config.effectivePolicies.applyDefaults options)) := by
  rw [forOptionalSession_applyDefaults member _ ascending]
  exact
    { met := by
        intro link firstId queue moment reached event
        have policy : event.policy moment.state = config.policyFor options event := by
          rw [policy_of_reaches member reached, policyFor_eq_policy config options session]
        refine ⟨policy, fun handler => ?_⟩
        rw [handler.offer_event, policy]
      given := by
        intro key value other given
        rw [← get?_scopedTo_of_ne options other] at given
        exact PolicyConfig.get?_applyDefaults_of_some _ given
      others := by
        intro key exceptions console other
        rw [← get?_scopedTo_of_ne options other]
        exact PolicyConfig.get?_applyDefaults_of_ne _ _ exceptions console
      inSession := by
        rintro id rfl
        exact PolicyConfig.get?_applyDefaults_of_some _ (Table.get?_insert_self options _ _)
      steps := by rw [forOptionalSession_eq, Instance.new]
      unconfigured := by
        intro unconfigured
        rw [forOptionalSession_eq, Instance.new, Config.effectivePolicies, unconfigured]
        rfl }

/-- The policies of an instance that the program builds.  Let the options be a list of pairs, of
which the last one counts where a key is repeated.  Then for every built-in script an instance is
built, and in it an event meets the policy that the options name for it, the default if what they
say names none, and else the policy of the configuration, or the default if that has no section for
policies.  No option that is given is replaced, all others but the policies reach the state as they
are, and the session is the one that is given.  The configuration has no part in which steps there
are, and one without policies makes no difference at all. -/
theorem built_instance_meets_policies (config : Config) (pairs : List (String × Json))
    (session : Option String) :
    (∀ key, (Table.ofList pairs).get? key = Table.lookup key pairs.reverse) ∧
    ∀ name ∈ Protocol.names, ∃ script subject, Protocol.byName? name = some script ∧
      Cli.buildInstance config name pairs session = .ok subject ∧
      BuiltFrom config script session (Table.ofList pairs) subject := by
  constructor
  · intro key
    rw [Table.ofList, Table.get?_insertAll]
    exact Option.or_none
  · intro name builtIn
    obtain ⟨script, member, found⟩ := exists_byName?_of_mem_names builtIn
    refine ⟨script, _, found, ?_, builtFrom_of_mem_catalog member config (.ofList pairs) session⟩
    rw [Cli.buildInstance, found]

/-- A configuration that raises exceptions and reports console calls. -/
def watchfulConfig : Config where
  policies := some ⟨.raise, .log⟩

/-- Options with two values for console calls, the second of which names no policy. -/
def shoutingPairs : List (String × Json) :=
  [("console_api_calls", .str "raise"), ("targetId", .str "T"), ("sessionId", .str "R"),
    ("console_api_calls", .str "shout")]

/-- Exceptions meet the policy of the configuration.  Console calls meet the default, and neither
what the options said first nor what the configuration says. -/
theorem closing_meets_policies :
    ∃ subject, Cli.buildInstance watchfulConfig "close_session" shoutingPairs (some "S") =
        .ok subject ∧
      (∀ params, (RuntimeEvent.exception params).policy subject.state = .raise) ∧
      (∀ params, (RuntimeEvent.console params).policy subject.state = .ignore) ∧
      subject.state.get? "targetId" = some (.str "T") ∧
      subject.state.get? "sessionId" = some (.str "S") ∧
      subject.steps = (Instance.forSession Protocol.closeSession "S" .empty).steps := by
  obtain ⟨script, subject, found, built, keeps⟩ :=
    (built_instance_meets_policies watchfulConfig shoutingPairs (some "S")).2 "close_session"
      (by decide)
  have policy (event : RuntimeEvent) :=
    (keeps.met {} 1 [] (subject.start 1 []) .refl event).1
  refine ⟨subject, built, fun params => ?_, fun params => ?_, ?_, keeps.inSession "S" rfl, ?_⟩
  · exact (policy (.exception params)).trans rfl
  · exact (policy (.console params)).trans rfl
  · exact keeps.given _ _ (.inr (by decide)) rfl
  · obtain rfl : Protocol.closeSession = script := Option.some.inj found
    rw [keeps.steps]
    rfl

end Dialogue

import Dialogue.Failure
import Dialogue.Proofs.Json.Equality
import Dialogue.Proofs.Table.Insertion
/-!
# Failures are read back

A failure is written as an object whose member `kind` is its tag.  It is read in two shapes.  An object
is asked for the tag and then for the fields that the tag names, so nothing else in it counts and
none of them may be missing; an array has to be the tag and the fields in order, and there the tag is
known by its place alone.  In both shapes what is read is settled by what is found there
(`ofJson?_obj_eq_some_iff`, `ofJson?_arr_eq_some_iff`).

A console failure has a kind of its own, which is written under another name, and the values that
failures carry may be anything.  Neither is ever asked for a tag or for a field.
-/

namespace Dialogue

namespace Failure

/-- The members that a failure is written with: its tag and its fields. -/
def members (failure : Failure) : List (String × Json) :=
  ("kind", .str failure.kind) :: failure.fields

def names (failure : Failure) : List String :=
  failure.members.map Prod.fst

/-- The values of the tag and of the fields in order. -/
def values (failure : Failure) : List Json :=
  failure.members.map Prod.snd

variable {failure other : Failure} {members : Table Json} {items : List Json} {name : String}

/-- A failure has each of its names once. -/
theorem nodup_names (failure : Failure) : failure.names.Nodup := by
  cases failure <;> simp [names, Failure.members, fields]

/-- The tag names the fields. -/
theorem fieldNames_kind (failure : Failure) :
    fieldNames failure.kind = failure.fields.map Prod.fst := by
  cases failure <;> rfl

/-- Failures with one tag have the same names. -/
theorem names_eq_of_kind_eq (same : failure.kind = other.kind) : failure.names = other.names := by
  simp only [names, Failure.members, List.map_cons, ← fieldNames_kind, same]

/-! ### What is read -/

/-- A tag and the values of its fields belong to one failure. -/
theorem ofFields?_eq_some_iff {kind : String} :
    ofFields? kind items = some failure ↔
      kind = failure.kind ∧ items = failure.fields.map Prod.snd := by
  constructor
  · intro read
    unfold ofFields? at read
    split at read <;> cases read <;> exact ⟨rfl, rfl⟩
  · rintro ⟨rfl, rfl⟩
    cases failure <;> rfl

/-- Names are looked up all together exactly where each of them is found. -/
theorem mapM_names_eq_some_iff {entries : List (String × Json)} :
    (entries.map Prod.fst).mapM members.get? = some (entries.map Prod.snd) ↔
      ∀ entry ∈ entries, members.get? entry.1 = some entry.2 := by
  induction entries with
  | nil => simp
  | cons entry rest inductionHypothesis =>
      rw [List.forall_mem_cons, ← inductionHypothesis, List.map_cons, List.map_cons,
        List.mapM_cons]
      cases members.get? entry.1 <;>
        cases (rest.map Prod.fst).mapM members.get? <;> simp

/-- An object is read as the failure whose tag and fields it holds. -/
theorem ofJson?_obj_eq_some_iff :
    ofJson? (.obj members) = some failure ↔
      ∀ entry ∈ failure.members, members.get? entry.1 = some entry.2 := by
  rw [Failure.members, List.forall_mem_cons, ← mapM_names_eq_some_iff, ← fieldNames_kind, ofJson?]
  split
  · next kind tagged =>
      rw [tagged, Option.some.injEq, Json.str.injEq, Option.bind_eq_some_iff]
      constructor
      · rintro ⟨found, looked, read⟩
        obtain ⟨rfl, rfl⟩ := ofFields?_eq_some_iff.mp read
        exact ⟨rfl, looked⟩
      · rintro ⟨rfl, looked⟩
        exact ⟨_, looked, ofFields?_eq_some_iff.mpr ⟨rfl, rfl⟩⟩
  · next untagged =>
      constructor
      · intro read
        cases read
      · rintro ⟨tagged, _⟩
        exact absurd tagged (untagged failure.kind)

/-- An array is read as the failure whose tag and fields it lists. -/
theorem ofJson?_arr_eq_some_iff : ofJson? (.arr items) = some failure ↔ items = failure.values := by
  rw [values, Failure.members, List.map_cons]
  cases items with
  | nil => simp [ofJson?]
  | cons first rest =>
      cases first with
      | str kind =>
          rw [ofJson?, ofFields?_eq_some_iff, List.cons.injEq, Json.str.injEq]
      | null | bool | num | arr | obj => simp [ofJson?]

/-- Without its tag an array is a failure of whatever comes first then. -/
example : ofJson? (.arr ((consoleCalled "custom" .null).values.eraseIdx 0)) =
    some (.custom .null) := by
  rfl

/-- The object of a failure holds its members. -/
theorem get?_of_mem_members (failure : Failure) :
    ∀ entry ∈ failure.members, (Table.ofList failure.members).get? entry.1 = some entry.2 :=
  fun _ member => Table.get?_ofList_of_mem failure.nodup_names member

/-- A failure is read back from the object that it is written as. -/
theorem ofJson?_toJson (failure : Failure) : ofJson? failure.toJson = some failure :=
  ofJson?_obj_eq_some_iff.mpr failure.get?_of_mem_members

/-- The object of a failure holds its members after others have been added. -/
theorem get?_insertAll_of_mem_members {more : List (String × Json)}
    (others : ∀ entry ∈ more, entry.1 ∉ failure.names) :
    ∀ entry ∈ failure.members,
      ((Table.ofList failure.members).insertAll more).get? entry.1 = some entry.2 := by
  intro entry member
  have spared : entry.1 ∉ more.map Prod.fst := by
    intro added
    obtain ⟨one, among, same⟩ := List.mem_map.mp added
    exact others one among (same ▸ List.mem_map_of_mem member)
  rw [Table.get?_insertAll_of_not_mem _ spared]
  exact failure.get?_of_mem_members entry member

/-- Nothing is read from an object that has no tag, or a tag without one of its fields. -/
theorem ofJson?_eq_none_of_missing (among : name ∈ failure.names)
    (missing : members.get? name = none)
    (tagged : name = "kind" ∨ members.get? "kind" = some (.str failure.kind)) :
    ofJson? (.obj members) = none := by
  cases read : ofJson? (.obj members) with
  | none => rfl
  | some other =>
      -- What were read would have the same tag, and so the name that is missing.
      have held := ofJson?_obj_eq_some_iff.mp read
      have otherTag : members.get? "kind" = some (.str other.kind) := held _ List.mem_cons_self
      have found : name ∈ other.names := by
        rcases tagged with rfl | tag
        · exact List.mem_cons_self
        · rw [otherTag, Option.some.injEq, Json.str.injEq] at tag
          rwa [names_eq_of_kind_eq tag]
      obtain ⟨entry, member, rfl⟩ := List.mem_map.mp found
      rw [held entry member] at missing
      cases missing

/-- Nothing is read from an array that lacks one of the fields. -/
theorem ofJson?_eraseIdx {position : Nat} (field : 0 < position)
    (within : position < failure.values.length) :
    ofJson? (.arr (failure.values.eraseIdx position)) = none := by
  cases read : ofJson? (.arr (failure.values.eraseIdx position)) with
  | none => rfl
  | some other =>
      have listed := ofJson?_arr_eq_some_iff.mp read
      -- The tag is still there, so what were read would have as many fields as before.
      have sameTag : failure.kind = other.kind := by
        have head := congrArg (·[0]?) listed
        rw [List.getElem?_eraseIdx_of_lt field] at head
        exact Json.str.inj (Option.some.inj head)
      have sameLength : failure.values.length = other.values.length := by
        have sameNames := congrArg List.length (names_eq_of_kind_eq sameTag)
        simpa only [values, names, List.length_map] using sameNames
      rw [← listed, List.length_eraseIdx_of_lt within] at sameLength
      omega

/-! ### Equal failures -/

/-- The failures are equal: they are of one variant and carry equal values. -/
inductive Equals : Failure → Failure → Prop where
  | exceptionThrown (description : String) :
      Equals (.exceptionThrown description) (.exceptionThrown description)
  | consoleCalled (type : String) {args otherArgs : Json} (same : (args == otherArgs) = true) :
      Equals (.consoleCalled type args) (.consoleCalled type otherArgs)
  | response {error otherError : Json} (same : (error == otherError) = true) :
      Equals (.response error) (.response otherError)
  | custom {reason otherReason : Json} (same : (reason == otherReason) = true) :
      Equals (.custom reason) (.custom otherReason)

/-- Only equal failures are written as equal values. -/
theorem equals_of_toJson_beq (same : (failure.toJson == other.toJson) = true) :
    failure.Equals other := by
  have member (key : String) :
      (Table.lookup key failure.members == Table.lookup key other.members) = true := by
    rw [← Table.get?_ofList failure.nodup_names, ← Table.get?_ofList other.nodup_names]
    exact Json.field?_beq same key
  have sameKind : failure.kind = other.kind := eq_of_beq (α := String) (member "kind")
  cases failure with
  | exceptionThrown description =>
      cases other with
      | exceptionThrown otherDescription =>
          obtain rfl := eq_of_beq (α := String) (member "description")
          exact .exceptionThrown description
      | consoleCalled | response | custom => simp [kind] at sameKind
  | consoleCalled type args =>
      cases other with
      | consoleCalled otherType otherArgs =>
          obtain rfl := eq_of_beq (α := String) (member "type")
          exact .consoleCalled type (member "args")
      | exceptionThrown | response | custom => simp [kind] at sameKind
  | response error =>
      cases other with
      | response otherError => exact .response (member "error")
      | exceptionThrown | consoleCalled | custom => simp [kind] at sameKind
  | custom reason =>
      cases other with
      | custom otherReason => exact .custom (member "reason")
      | exceptionThrown | consoleCalled | response => simp [kind] at sameKind

end Failure

/-- A failure that is written is read back.  The object that it is written as is read as the failure,
also with members of any other names added, and so is the array of its tag and fields; without its tag
or one of its fields the object is not read at all, and neither is the array without one of its
fields.  More exactly, an object is read as the failure if and only if it holds the failure's members,
and an array if and only if it lists their values.  So failures that are written as the same value are
the same, and those written as equal values are equal. -/
theorem failures_read_back (failure : Failure) :
    Failure.ofJson? failure.toJson = some failure ∧
    Failure.ofJson? (.arr failure.values) = some failure ∧
    (∀ more : List (String × Json), (∀ entry ∈ more, entry.1 ∉ failure.names) →
      Failure.ofJson? (.obj ((Table.ofList failure.members).insertAll more)) = some failure ∧
      ∀ name ∈ failure.names,
        Failure.ofJson? (.obj (((Table.ofList failure.members).insertAll more).erase name)) =
          none) ∧
    (∀ position, 0 < position → position < failure.values.length →
      Failure.ofJson? (.arr (failure.values.eraseIdx position)) = none) ∧
    (∀ members, Failure.ofJson? (.obj members) = some failure ↔
      ∀ entry ∈ failure.members, members.get? entry.1 = some entry.2) ∧
    (∀ items, Failure.ofJson? (.arr items) = some failure ↔ items = failure.values) ∧
    (∀ other : Failure, failure.toJson = other.toJson → failure = other) ∧
    ∀ other : Failure, (failure.toJson == other.toJson) = true → failure.Equals other := by
  refine ⟨failure.ofJson?_toJson, Failure.ofJson?_arr_eq_some_iff.mpr rfl, ?_,
    fun position => Failure.ofJson?_eraseIdx, fun members => Failure.ofJson?_obj_eq_some_iff,
    fun items => Failure.ofJson?_arr_eq_some_iff, ?_, fun other => Failure.equals_of_toJson_beq⟩
  · intro more others
    have held := Failure.get?_insertAll_of_mem_members others
    refine ⟨Failure.ofJson?_obj_eq_some_iff.mpr held, fun name among => ?_⟩
    refine Failure.ofJson?_eq_none_of_missing among ?_ ?_
    · rw [Table.get?_erase, if_pos rfl]
    · by_cases tag : name = "kind"
      · exact .inl tag
      · right
        rw [Table.get?_erase, if_neg (Ne.symm tag)]
        exact held _ List.mem_cons_self
  · intro other same
    have read := failure.ofJson?_toJson
    rw [same, Failure.ofJson?_toJson, Option.some.injEq] at read
    exact read.symm

/-- A console failure of a kind that is the tag of another variant, with arguments that look like a
failure of that variant. -/
def lookalikeFailure : Failure :=
  .consoleCalled "custom" (.object [("kind", .str "custom"), ("reason", .null)])

/-- It is read back with the fields of other variants added, and not read without its arguments,
though what is left names another variant and holds its field. -/
theorem lookalikeFailure_read_back :
    Failure.ofJson? (.object (lookalikeFailure.members ++ [("reason", .null)])) =
        some lookalikeFailure ∧
      Failure.ofJson? (.obj ((Table.ofList
        (lookalikeFailure.members ++ [("reason", .null)])).erase "args")) = none ∧
      Failure.ofJson? (.arr [.str "console_api_called", .str "custom",
        .object [("kind", .str "custom"), ("reason", .null)]]) = some lookalikeFailure := by
  obtain ⟨_, listed, added, _⟩ := failures_read_back lookalikeFailure
  have foreign : ∀ entry ∈ [("reason", Json.null)], entry.1 ∉ lookalikeFailure.names := by
    simp [lookalikeFailure, Failure.names, Failure.members, Failure.fields]
  obtain ⟨read, missing⟩ := added [("reason", .null)] foreign
  rw [Table.ofList, ← Table.insertAll_append] at read missing
  exact ⟨read, missing "args" (by decide), listed⟩

end Dialogue

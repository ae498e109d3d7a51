import Dialogue.State
import Dialogue.Proofs.Number.Decimal
/-!
# Following paths

A path leads through objects by their keys and through arrays by positions, in whatever order the
two come, and no further than that.  A position is spelled in many ways, since a plus sign and zeros
in front make no difference to it, but each spelling names one position only, so a path leads to one
value at most.

Following two paths in turn is following their concatenation.  A state is followed like the object
of its values, except along the empty path: an object leads to itself, a state leads nowhere.
-/

namespace Dialogue

namespace Json

/-! ### Positions -/

/-- The segment names the position: a plus sign or none, zeros, and the digits of the position, which
has to fit a 64-bit word. -/
def Names (segment : String) (position : Nat) : Prop :=
  position < UInt64.size ∧ ∃ sign zeros, (sign = [] ∨ sign = ['+']) ∧
    segment.toList = sign ++ (List.replicate zeros '0' ++ decimalDigits position)

variable {digits : List Char} {segment : String} {position zeros : Nat}

/-- Zeros in front do not change what digits spell. -/
theorem digitsValue_zeros (zeros : Nat) (digits : List Char) :
    digitsValue 0 (List.replicate zeros '0' ++ digits) = digitsValue 0 digits := by
  induction zeros with
  | zero => rfl
  | succ zeros inductionHypothesis => exact inductionHypothesis

theorem isDigit_of_mem_zeros_append {c : Char}
    (member : c ∈ List.replicate zeros '0' ++ decimalDigits position) : c.isDigit = true := by
  rcases List.mem_append.mp member with zero | digit
  · rw [List.eq_of_mem_replicate zero]
    rfl
  · exact isDigit_of_mem_decimalDigits digit

theorem positionOfDigits?_eq_some_iff :
    positionOfDigits? digits = some position ↔
      position < UInt64.size ∧
        ∃ zeros, digits = List.replicate zeros '0' ++ decimalDigits position := by
  constructor
  · intro read
    rw [positionOfDigits?] at read
    split at read
    · cases read
    · next wellFormed =>
        simp only [Bool.or_eq_true, List.isEmpty_iff, Bool.not_eq_true', not_or,
          Bool.not_eq_false, List.all_eq_true] at wellFormed
        obtain ⟨nonempty, digital⟩ := wellFormed
        rw [Option.ite_none_right_eq_some, Option.some.injEq] at read
        obtain ⟨fits, rfl⟩ := read
        exact ⟨fits, exists_zeros_append digital nonempty⟩
  · rintro ⟨fits, zeros, rfl⟩
    have nonempty : List.replicate zeros '0' ++ decimalDigits position ≠ [] := by
      simp [decimalDigits_ne_nil]
    have digital : (List.replicate zeros '0' ++ decimalDigits position).all Char.isDigit = true :=
      List.all_eq_true.mpr fun c member => isDigit_of_mem_zeros_append member
    have value : digitsValue 0 (List.replicate zeros '0' ++ decimalDigits position) = position := by
      rw [digitsValue_zeros, digitsValue_decimalDigits]
    simp only [positionOfDigits?, value, digital, List.isEmpty_eq_false_iff.mpr nonempty, fits]
    rfl

/-- A segment is read as the position that it names and as no other. -/
theorem position?_eq_some_iff : position? segment = some position ↔ Names segment position := by
  rw [position?, Names]
  split
  · next digits signed =>
      rw [positionOfDigits?_eq_some_iff, signed]
      refine and_congr_right fun _ => ⟨?_, ?_⟩
      · rintro ⟨zeros, rfl⟩
        exact ⟨['+'], zeros, .inr rfl, rfl⟩
      · rintro ⟨sign, zeros, rfl | rfl, spelled⟩
        · -- Without a sign the plus would be a digit.
          have digit : ('+').isDigit = true :=
            isDigit_of_mem_zeros_append (spelled ▸ List.mem_cons_self)
          cases digit
        · exact ⟨zeros, (List.cons.inj spelled).2⟩
  · next unsigned =>
      rw [positionOfDigits?_eq_some_iff]
      refine and_congr_right fun _ => ⟨?_, ?_⟩
      · rintro ⟨zeros, spelled⟩
        exact ⟨[], zeros, .inl rfl, spelled⟩
      · rintro ⟨sign, zeros, rfl | rfl, spelled⟩
        · exact ⟨zeros, spelled⟩
        · exact absurd spelled (unsigned _)

/-! ### Values -/

/-- A path leads from a value to another one, through objects by key and through arrays by
position. -/
inductive Leads : Json → List String → Json → Prop where
  | here (value : Json) : Leads value [] value
  | member {members : Table Json} {key : String} {next value : Json} {rest : List String}
      (known : members.get? key = some next) (onward : Leads next rest value) :
      Leads (.obj members) (key :: rest) value
  | item {items : List Json} {segment : String} {position : Nat} {next value : Json}
      {rest : List String} (named : Names segment position)
      (there : items[position]? = some next) (onward : Leads next rest value) :
      Leads (.arr items) (segment :: rest) value

/-- What is found at a path is what it leads to. -/
theorem at?_eq_some_iff {root value : Json} {path : List String} :
    root.at? path = some value ↔ Leads root path value := by
  constructor
  · intro found
    induction path generalizing root with
    | nil =>
        rw [at?_nil, Option.some.injEq] at found
        exact found ▸ .here root
    | cons segment rest inductionHypothesis =>
        rw [at?_cons, Option.bind_eq_some_iff] at found
        obtain ⟨next, stepped, onward⟩ := found
        cases root with
        | obj members => exact .member stepped (inductionHypothesis onward)
        | arr items =>
            obtain ⟨position, read, there⟩ := Option.bind_eq_some_iff.mp stepped
            exact .item (position?_eq_some_iff.mp read) there (inductionHypothesis onward)
        | null | bool | num | str => cases stepped
  · intro leads
    induction leads with
    | here value => exact at?_nil value
    | member known _ inductionHypothesis =>
        rw [at?_cons, step?, known, Option.bind_some, inductionHypothesis]
    | item named there _ inductionHypothesis =>
        rw [at?_cons, step?, position?_eq_some_iff.mpr named, Option.bind_some, there,
          Option.bind_some, inductionHypothesis]

/-- A key that is no position leads to a member, and nowhere but in an object. -/
theorem step?_eq_field? {key : String} (name : position? key = none) (value : Json) :
    value.step? key = value.field? key := by
  cases value with
  | arr items => rw [step?, name]; rfl
  | obj | null | bool | num | str => rfl

/-- A path that begins with such a key goes on from the member. -/
theorem at?_cons_of_name {key : String} (name : position? key = none) (value : Json)
    (rest : List String) : value.at? (key :: rest) = (value.field? key).bind (·.at? rest) := by
  rw [at?_cons, step?_eq_field? name]

theorem at?_singleton {key : String} (name : position? key = none) (value : Json) :
    value.at? [key] = value.field? key := by
  rw [at?_cons_of_name name]
  exact Option.bind_fun_some _

end Json

/-! ### States -/

namespace State

/-- A path of one key leads to the value of that key. -/
theorem at?_singleton (state : State) (key : String) : state.at? [key] = state.get? key := by
  cases found : state.get? key <;> simp [at?, found]

/-- Past its empty path the state is read like an object. -/
theorem at?_eq (state : State) {path : List String} (begins : path ≠ []) :
    state.at? path = state.toJson.at? path := by
  cases path with
  | nil => exact absurd rfl begins
  | cons key rest => rfl

/-- A state is followed along two paths in turn as along their concatenation. -/
theorem at?_append (state : State) (key : String) (rest more : List String) :
    state.at? (key :: rest ++ more) = (state.at? (key :: rest)).bind (·.at? more) := by
  rw [at?, Option.bind_assoc, List.cons_append, at?]
  exact Option.bind_congr fun value _ => value.at?_append rest more

/-- Setting a key decides what is found along the paths that begin with it and along no others. -/
theorem at?_insert (state : State) (key first : String) (value : Json) (rest : List String) :
    (state.insert key value).at? (first :: rest) =
      if first = key then value.at? rest else state.at? (first :: rest) := by
  rw [at?, get?_insert]
  by_cases same : first = key
  · rw [if_pos same, if_pos same, Option.bind_some]
  · rw [if_neg same, if_neg same, at?]

end State

/-- Look-ups along paths compose.  From every value a path finds what it leads to through objects and
arrays, and a concatenation finds what its second part finds from where the first one leads, if that
leads anywhere.  A state is followed like the object of its values, but the empty path leads nowhere
in it; and a value that is set at a key is what the paths beginning with this key are followed from,
while all others find what they found before. -/
theorem lookups_compose (root : Json) (state : State) :
    (∀ path value, root.at? path = some value ↔ Json.Leads root path value) ∧
    (∀ first second, root.at? (first ++ second) = (root.at? first).bind (·.at? second)) ∧
    (∀ key rest, state.at? (key :: rest) = state.toJson.at? (key :: rest)) ∧
    (∀ key rest more,
      state.at? (key :: rest ++ more) = (state.at? (key :: rest)).bind (·.at? more)) ∧
    state.at? [] = none ∧
    ∀ set value key rest, (state.insert set value).at? (key :: rest) =
      if key = set then value.at? rest else state.at? (key :: rest) := by
  refine ⟨fun path value => Json.at?_eq_some_iff, root.at?_append, fun key rest => ?_,
    state.at?_append, rfl, fun set value key rest => state.at?_insert set key value rest⟩
  exact state.at?_eq (List.cons_ne_nil key rest)

/-- One segment is a position in an array and a key in an object. -/
example : (Json.arr [.null, .object [("+01", .str "b")]]).at? ["+01", "+01"] = some (.str "b") := by
  rfl

end Dialogue

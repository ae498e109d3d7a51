import Dialogue.Json.Basic
/-!
# Equality of values is an equivalence

Two values can be equal without being the same one, as the two zeros among the doubles are, and so
can arrays and objects that hold them.  Equality is symmetric and transitive all the same, at every
depth, so equal values are equal to the same values.
-/

namespace Dialogue

namespace Double

theorem equal_comm (x y : Double) : x.equal y = y.equal x := by
  rw [equal, equal, Bool.and_comm, BEq.comm (a := x.negative), BEq.comm (a := x.significand),
    BEq.comm (a := x.exponent)]

theorem equal_trans {x y z : Double} (first : x.equal y = true) (second : y.equal z = true) :
    x.equal z = true := by
  simp only [equal, isZero, Bool.or_eq_true, Bool.and_eq_true, beq_iff_eq] at first second ⊢
  grind

end Double

namespace Number

theorem equal_comm (m n : Number) : m.equal n = n.equal m := by
  cases m <;> cases n <;> simp [equal, Double.equal_comm, BEq.comm]

theorem equal_trans {l m n : Number} (first : l.equal m = true) (second : m.equal n = true) :
    l.equal n = true := by
  cases m with
  | unsigned value =>
      cases l <;> simp [equal] at first
      exact first ▸ second
  | negative below =>
      cases l <;> simp [equal] at first
      exact first ▸ second
  | double value =>
      cases l <;> simp only [equal, Bool.false_eq_true] at first
      cases n <;> simp only [equal, Bool.false_eq_true] at second
      exact Double.equal_trans first second

end Number

namespace Json

mutual

theorem equal_comm : ∀ one other : Json, equal one other = equal other one
  | .null, other | .bool _, other | .num _, other | .str _, other => by
      cases other <;> simp [equal, Number.equal_comm, BEq.comm]
  | .arr items, other => by
      cases other with
      | arr others => simpa [equal] using equalItems_comm items others
      | _ => simp [equal]
  | .obj ⟨entries⟩, other => by
      cases other with
      | obj others => simpa [equal] using equalMembers_comm entries others.entries
      | _ => simp [equal]

theorem equalItems_comm : ∀ one other : List Json, equalItems one other = equalItems other one
  | [], [] => rfl
  | [], _ :: _ => by simp [equalItems]
  | _ :: _, [] => by simp [equalItems]
  | value :: rest, other :: others => by
      simp [equalItems, equal_comm value other, equalItems_comm rest others]

theorem equalMembers_comm :
    ∀ one other : List (String × Json), equalMembers one other = equalMembers other one
  | [], [] => rfl
  | [], _ :: _ => by simp [equalMembers]
  | _ :: _, [] => by simp [equalMembers]
  | (key, value) :: rest, (otherKey, other) :: others => by
      simp [equalMembers, equal_comm value other, equalMembers_comm rest others,
        BEq.comm (a := key)]

end

mutual

theorem equal_trans : ∀ {one middle other : Json}, equal one middle = true →
    equal middle other = true → equal one other = true
  | .null, middle, other, first, second => by
      cases middle <;> simp [equal] at first
      exact second
  | .bool value, middle, other, first, second => by
      cases middle <;> simp [equal] at first
      exact first ▸ second
  | .str value, middle, other, first, second => by
      cases middle <;> simp [equal] at first
      exact first ▸ second
  | .num number, middle, other, first, second => by
      cases middle <;> simp only [equal, Bool.false_eq_true] at first
      cases other <;> simp only [equal, Bool.false_eq_true] at second
      exact Number.equal_trans first second
  | .arr items, middle, other, first, second => by
      cases middle <;> simp only [equal, Bool.false_eq_true] at first
      cases other <;> simp only [equal, Bool.false_eq_true] at second
      exact equalItems_trans first second
  | .obj ⟨entries⟩, middle, other, first, second => by
      cases middle <;> simp only [equal, Bool.false_eq_true] at first
      cases other <;> simp only [equal, Bool.false_eq_true] at second
      exact equalMembers_trans first second

theorem equalItems_trans : ∀ {one middle other : List Json}, equalItems one middle = true →
    equalItems middle other = true → equalItems one other = true
  | [], middle, other, first, second => by
      cases middle with
      | nil => exact second
      | cons => simp [equalItems] at first
  | value :: rest, middle, other, first, second => by
      cases middle <;> cases other <;>
        simp only [equalItems, Bool.and_eq_true, Bool.false_eq_true] at first second ⊢
      exact ⟨equal_trans first.1 second.1, equalItems_trans first.2 second.2⟩

theorem equalMembers_trans : ∀ {one middle other : List (String × Json)},
    equalMembers one middle = true → equalMembers middle other = true →
    equalMembers one other = true
  | [], middle, other, first, second => by
      cases middle with
      | nil => exact second
      | cons => simp [equalMembers] at first
  | (key, value) :: rest, middle, other, first, second => by
      cases middle <;> cases other <;>
        simp only [equalMembers, Bool.and_eq_true, Bool.false_eq_true, beq_iff_eq]
          at first second ⊢
      exact ⟨⟨first.1.1.trans second.1.1, equal_trans first.1.2 second.1.2⟩,
        equalMembers_trans first.2 second.2⟩

end

/-- Equal values are equal to the same values. -/
theorem beq_congr {one other : Json} (same : (one == other) = true) (value : Json) :
    (value == one) = (value == other) := by
  have back : equal other one = true := (equal_comm other one).trans same
  exact Bool.eq_iff_iff.mpr
    ⟨fun first => equal_trans first same, fun second => equal_trans second back⟩

/-- Members that are equal in order are equal key by key. -/
theorem lookup_beq {key : String} : ∀ {one other : List (String × Json)},
    equalMembers one other = true →
      (Table.lookup key one == Table.lookup key other) = true
  | [], [], _ => rfl
  | [], _ :: _, same | _ :: _, [], same => by simp [equalMembers] at same
  | (first, value) :: rest, (second, otherValue) :: others, same => by
      simp only [equalMembers, Bool.and_eq_true, beq_iff_eq] at same
      obtain ⟨⟨rfl, sameValue⟩, sameRest⟩ := same
      rw [Table.lookup, Table.lookup]
      by_cases here : key = first
      · rw [if_pos here, if_pos here]
        exact sameValue
      · rw [if_neg here, if_neg here]
        exact lookup_beq sameRest

/-- Equal values have equal members. -/
theorem field?_beq {one other : Json} (same : (one == other) = true) (key : String) :
    (one.field? key == other.field? key) = true := by
  cases one with
  | obj members =>
      cases other with
      | obj others => exact lookup_beq same
      | null | bool | num | str | arr => cases same
  | null | bool | num | str | arr =>
      cases other with
      | obj others => cases same
      | null | bool | num | str | arr => rfl

end Json

end Dialogue

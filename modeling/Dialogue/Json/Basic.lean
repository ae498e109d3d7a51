import Dialogue.Number.Double
import Dialogue.Table
/-!
# JSON values

The values that frames, options and states are made of.  A number is an unsigned 64-bit integer, a
negative 64-bit integer or a double, and the three kinds never equal each other: a double is not an
integer even where their numeric values agree.  An object is a table, so its members are listed in
key order and each key has one value.
-/

namespace Dialogue

/-- A JSON number of one of the three kinds. -/
inductive Number where
  | unsigned (value : UInt64)
  /-- The integer `-1 - below`; so every negative 64-bit integer has one representation. -/
  | negative (below : Fin (UInt64.size / 2))
  | double (value : Double)
deriving DecidableEq

namespace Number

/-- Equality within a kind; for doubles it is numeric, so the two zeros are equal. -/
def equal : Number → Number → Bool
  | .unsigned a, .unsigned b => a == b
  | .negative a, .negative b => a == b
  | .double a, .double b => a.equal b
  | _, _ => false

theorem equal_self (n : Number) : n.equal n = true := by
  cases n <;> simp [equal, Double.equal_self]

/-- The number for an integer magnitude, if it fits one of the two integer kinds.  A negative zero
is none of them. -/
def ofMagnitude? (negative : Bool) (magnitude : Nat) : Option Number :=
  if negative then
    match magnitude with
    | 0 => none
    | below + 1 => if fits : below < UInt64.size / 2 then some (.negative ⟨below, fits⟩) else none
  else if magnitude < UInt64.size then some (.unsigned (UInt64.ofNat magnitude))
  else none

end Number

/-- A JSON value. -/
inductive Json where
  | null
  | bool (value : Bool)
  | num (value : Number)
  | str (value : String)
  | arr (items : List Json)
  | obj (members : Table Json)

namespace Json

instance : Inhabited Json := ⟨.null⟩

/-- The object with these members, the last one of a repeated key counting. -/
def object (members : List (String × Json)) : Json :=
  .obj (Table.ofList members)

/-- The unsigned integer of this value. -/
def word (value : UInt64) : Json :=
  .num (.unsigned value)

/-- A natural number that fits a 64-bit word. -/
def nat (value : Nat) : Json :=
  .num (.unsigned (UInt64.ofNat value))

def asString? : Json → Option String
  | .str value => some value
  | _ => none

/-- The value of an unsigned integer; doubles and negative numbers have none. -/
def asWord? : Json → Option UInt64
  | .num (.unsigned value) => some value
  | _ => none

def asBool? : Json → Option Bool
  | .bool value => some value
  | _ => none

def asArray? : Json → Option (List Json)
  | .arr items => some items
  | _ => none

def asObject? : Json → Option (Table Json)
  | .obj members => some members
  | _ => none

/-- The member of an object; values of other kinds have none. -/
def field? (value : Json) (key : String) : Option Json :=
  value.asObject?.bind (·.get? key)

mutual

/-- Equality of values: numbers by kind and value, arrays and objects member by member. -/
def equal : Json → Json → Bool
  | .null, .null => true
  | .bool a, .bool b => a == b
  | .num a, .num b => a.equal b
  | .str a, .str b => a == b
  | .arr as, .arr bs => equalItems as bs
  | .obj ⟨as⟩, .obj ⟨bs⟩ => equalMembers as bs
  | _, _ => false

/-- Equality of array items in order. -/
def equalItems : List Json → List Json → Bool
  | [], [] => true
  | a :: as, b :: bs => equal a b && equalItems as bs
  | _, _ => false

/-- Equality of object members in order, keys included. -/
def equalMembers : List (String × Json) → List (String × Json) → Bool
  | [], [] => true
  | (j, a) :: as, (k, b) :: bs => j == k && equal a b && equalMembers as bs
  | _, _ => false

end

instance : BEq Json := ⟨equal⟩

mutual

/-- Every value equals itself. -/
theorem equal_self : ∀ value : Json, equal value value = true
  | .null => by simp [equal]
  | .bool _ => by simp [equal]
  | .num n => by simp [equal, Number.equal_self]
  | .str _ => by simp [equal]
  | .arr items => by simp [equal, equalItems_self items]
  | .obj ⟨entries⟩ => by simp [equal, equalMembers_self entries]

theorem equalItems_self : ∀ items : List Json, equalItems items items = true
  | [] => by simp [equalItems]
  | value :: rest => by simp [equalItems, equal_self value, equalItems_self rest]

theorem equalMembers_self : ∀ entries : List (String × Json), equalMembers entries entries = true
  | [] => by simp [equalMembers]
  | (_, value) :: rest => by simp [equalMembers, equal_self value, equalMembers_self rest]

end

mutual

/-- The same value with the members of every object inside it in key order. -/
def arranged : Json → Json
  | .arr items => .arr (arrangedItems items)
  | .obj ⟨entries⟩ => .obj (Table.ofList (arrangedMembers entries))
  | value => value

def arrangedItems : List Json → List Json
  | [] => []
  | value :: rest => arranged value :: arrangedItems rest

def arrangedMembers : List (String × Json) → List (String × Json)
  | [] => []
  | (key, value) :: rest => (key, arranged value) :: arrangedMembers rest

end

end Json

end Dialogue

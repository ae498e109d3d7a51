/-!
# Tables

A table maps text keys to values and lists its entries in ascending order of their keys, which is
the order in which objects are written.  Insertion looks for the first entry whose key is not
smaller, so a table that is built by insertions is ascending and has each key once.  The laws of
look-up and insertion below need no such assumption: they hold of every list of entries.
-/

namespace Dialogue

/-- Entries by key, in ascending key order. -/
structure Table (α : Type) where
  entries : List (String × α)

namespace Table

variable {α : Type}

def empty : Table α := ⟨[]⟩

instance : EmptyCollection (Table α) := ⟨empty⟩

/-- The value of the first entry with this key. -/
def lookup (key : String) : List (String × α) → Option α
  | [] => none
  | (first, value) :: rest => if key = first then some value else lookup key rest

/-- The value of a key. -/
def get? (table : Table α) (key : String) : Option α :=
  lookup key table.entries

/-- Whether some entry has this key. -/
def contains (table : Table α) (key : String) : Bool :=
  (table.get? key).isSome

/-- The number of entries. -/
def size (table : Table α) : Nat :=
  table.entries.length

def keys (table : Table α) : List String :=
  table.entries.map Prod.fst

/-- Put an entry before the first one with a greater key, replacing one with an equal key. -/
def insertEntry (key : String) (value : α) : List (String × α) → List (String × α)
  | [] => [(key, value)]
  | (first, old) :: rest =>
      if key = first then (key, value) :: rest
      else if key < first then (key, value) :: (first, old) :: rest
      else (first, old) :: insertEntry key value rest

/-- Set the value of a key. -/
def insert (table : Table α) (key : String) (value : α) : Table α :=
  ⟨insertEntry key value table.entries⟩

/-- Set the value of a key that has none yet. -/
def insertIfAbsent (table : Table α) (key : String) (value : α) : Table α :=
  if table.contains key then table else table.insert key value

/-- Forget a key. -/
def erase (table : Table α) (key : String) : Table α :=
  ⟨table.entries.filter fun entry => entry.1 != key⟩

/-- Set the values of many keys in turn, so that the last one of a repeated key stays. -/
def insertAll (table : Table α) (entries : List (String × α)) : Table α :=
  entries.foldl (fun table entry => table.insert entry.1 entry.2) table

/-- The table of these entries, the last one of a repeated key counting. -/
def ofList (entries : List (String × α)) : Table α :=
  empty.insertAll entries

/-- The entries of `upper` over those of `lower`. -/
def overlay (lower upper : Table α) : Table α :=
  lower.insertAll upper.entries

@[simp] theorem get?_empty (key : String) : (empty : Table α).get? key = none := rfl

theorem lookup_append (key : String) (first second : List (String × α)) :
    lookup key (first ++ second) = (lookup key first).or (lookup key second) := by
  induction first with
  | nil => simp [lookup]
  | cons entry rest ih =>
    by_cases same : key = entry.1 <;> simp [lookup, same, ih]

theorem lookup_insertEntry (key other : String) (value : α) (entries : List (String × α)) :
    lookup other (insertEntry key value entries) =
      if other = key then some value else lookup other entries := by
  induction entries with
  | nil => simp [insertEntry, lookup]
  | cons entry rest ih =>
    obtain ⟨first, old⟩ := entry
    by_cases same : key = first
    · subst same
      by_cases found : other = key <;> simp [insertEntry, lookup, found]
    · by_cases less : key < first
      · simp [insertEntry, same, less, lookup]
      · by_cases found : other = first
        · subst found
          simp [insertEntry, same, less, lookup, Ne.symm same]
        · simp [insertEntry, same, less, lookup, found, ih]

/-- Reading after setting: the set key has the new value, every other key keeps its own. -/
theorem get?_insert (table : Table α) (key other : String) (value : α) :
    (table.insert key value).get? other = if other = key then some value else table.get? other :=
  lookup_insertEntry key other value table.entries

@[simp] theorem get?_insert_self (table : Table α) (key : String) (value : α) :
    (table.insert key value).get? key = some value := by
  simp [get?_insert]

theorem get?_insert_of_ne (table : Table α) {key other : String} (different : other ≠ key)
    (value : α) : (table.insert key value).get? other = table.get? other := by
  simp [get?_insert, different]

theorem get?_insertIfAbsent (table : Table α) (key other : String) (value : α) :
    (table.insertIfAbsent key value).get? other =
      if other = key then some ((table.get? key).getD value) else table.get? other := by
  unfold insertIfAbsent contains
  cases found : table.get? key with
  | none => simp [get?_insert]
  | some old =>
    by_cases same : other = key
    · subst same
      simp [found]
    · simp [same]

/-- Reading after setting many keys asks the last of the set entries first. -/
theorem get?_insertAll (table : Table α) (entries : List (String × α)) (key : String) :
    (table.insertAll entries).get? key = (lookup key entries.reverse).or (table.get? key) := by
  induction entries generalizing table with
  | nil => simp [insertAll, lookup]
  | cons entry rest ih =>
    obtain ⟨first, value⟩ := entry
    have step := ih (table.insert first value)
    simp only [insertAll, List.foldl_cons] at step ⊢
    rw [step, get?_insert, List.reverse_cons, lookup_append]
    by_cases same : key = first
    · subst same
      cases lookup key rest.reverse <;> simp [lookup]
    · simp [lookup, same]

end Table

end Dialogue

import Dialogue.Proofs.Table.Ascending
/-!
# Insertions in turn

What is set for a key is overwritten by what is set for it later, and insertions under different
keys may change places.  So only the last insertion under each key counts, a list of insertions may
be repeated without effect, and if it has each key once it may be worked off in any order.  These
laws are equations between tables, entry by entry, and hold of every table, ascending or not.
-/

namespace Dialogue.Table

variable {α : Type} {key known one other : String} {value old first second : α}
  {entries rest : List (String × α)}

/-! ### The place of an insertion -/

/-- A key that has the first entry gets a new one in its place. -/
theorem insertEntry_cons_self :
    insertEntry key value ((key, old) :: rest) = (key, value) :: rest := by
  rw [insertEntry, if_pos rfl]

/-- A key that is less than the first one goes in front of it. -/
theorem insertEntry_cons_of_lt (less : key < known) :
    insertEntry key value ((known, old) :: rest) = (key, value) :: (known, old) :: rest := by
  have different : key ≠ known := fun same => String.lt_irrefl key (same ▸ less)
  rw [insertEntry, if_neg different, if_pos less]

/-- A key that is greater than the first one goes somewhere behind it. -/
theorem insertEntry_cons_of_gt (greater : known < key) :
    insertEntry key value ((known, old) :: rest) = (known, old) :: insertEntry key value rest := by
  have different : key ≠ known := fun same => String.lt_irrefl key (same ▸ greater)
  have notLess : ¬key < known := fun less => String.lt_irrefl key (String.lt_trans less greater)
  rw [insertEntry, if_neg different, if_neg notLess]

theorem lt_trichotomy (key known : String) : key < known ∨ key = known ∨ known < key := by
  by_cases same : key = known
  · exact .inr (.inl same)
  · by_cases less : key < known
    · exact .inl less
    · exact .inr (.inr (lt_of_ne_of_not_lt same less))

/-! ### Two insertions -/

/-- The later of two insertions under one key counts. -/
theorem insertEntry_insertEntry (key : String) (first second : α) (entries : List (String × α)) :
    insertEntry key second (insertEntry key first entries) = insertEntry key second entries := by
  induction entries with
  | nil => exact insertEntry_cons_self
  | cons head rest inductionHypothesis =>
      obtain ⟨known, old⟩ := head
      rcases lt_trichotomy key known with less | rfl | greater
      · rw [insertEntry_cons_of_lt less, insertEntry_cons_self, insertEntry_cons_of_lt less]
      · rw [insertEntry_cons_self, insertEntry_cons_self, insertEntry_cons_self]
      · rw [insertEntry_cons_of_gt greater, insertEntry_cons_of_gt greater, inductionHypothesis,
          insertEntry_cons_of_gt greater]

/-- An insertion may change places with one under a greater key. -/
theorem insertEntry_comm_of_lt (less : one < other) (first second : α)
    (entries : List (String × α)) :
    insertEntry one first (insertEntry other second entries) =
      insertEntry other second (insertEntry one first entries) := by
  induction entries with
  | nil =>
      have front : insertEntry one first [(other, second)] = [(one, first), (other, second)] :=
        insertEntry_cons_of_lt less
      have behind : insertEntry other second [(one, first)] = [(one, first), (other, second)] :=
        insertEntry_cons_of_gt less
      exact front.trans behind.symm
  | cons head rest inductionHypothesis =>
      obtain ⟨known, old⟩ := head
      rcases lt_trichotomy one known with before | rfl | after
      · -- Wherever the greater key goes, the lesser one goes in front of all.
        rw [insertEntry_cons_of_lt before, insertEntry_cons_of_gt less]
        rcases lt_trichotomy other known with before' | rfl | after'
        · rw [insertEntry_cons_of_lt before', insertEntry_cons_of_lt less]
        · rw [insertEntry_cons_self, insertEntry_cons_of_lt less]
        · rw [insertEntry_cons_of_gt after', insertEntry_cons_of_lt before]
      · rw [insertEntry_cons_of_gt less, insertEntry_cons_self, insertEntry_cons_self,
          insertEntry_cons_of_gt less]
      · have after' : known < other := String.lt_trans after less
        rw [insertEntry_cons_of_gt after', insertEntry_cons_of_gt after, inductionHypothesis,
          insertEntry_cons_of_gt after, insertEntry_cons_of_gt after']

/-- Setting a key twice is setting it the second time. -/
theorem insert_insert (table : Table α) (key : String) (first second : α) :
    (table.insert key first).insert key second = table.insert key second := by
  simp only [insert, insertEntry_insertEntry]

/-- Different keys may be set in any order. -/
theorem insert_comm (table : Table α) (different : one ≠ other) (first second : α) :
    (table.insert one first).insert other second =
      (table.insert other second).insert one first := by
  simp only [insert, mk.injEq]
  by_cases less : one < other
  · exact (insertEntry_comm_of_lt less first second table.entries).symm
  · exact insertEntry_comm_of_lt (lt_of_ne_of_not_lt different less) second first table.entries

/-! ### Many insertions -/

/-- What is set for a key before it is set again makes no difference. -/
theorem insertAll_insert_of_mem {key : String} (table : Table α) (value : α)
    (again : key ∈ entries.map Prod.fst) :
    (table.insert key value).insertAll entries = table.insertAll entries := by
  induction entries generalizing table with
  | nil => cases again
  | cons entry rest inductionHypothesis =>
      obtain ⟨next, newer⟩ := entry
      rw [insertAll, List.foldl_cons, insertAll, List.foldl_cons]
      by_cases same : key = next
      · rw [same, insert_insert]
      · have later : key ∈ rest.map Prod.fst :=
          (List.mem_cons.mp again).resolve_left same
        rw [insert_comm table same]
        exact inductionHypothesis (table.insert next newer) later

/-- Insertions all of whose keys are set again make no difference. -/
theorem insertAll_insertAll {earlier later : List (String × α)} (table : Table α)
    (again : earlier.map Prod.fst ⊆ later.map Prod.fst) :
    (table.insertAll earlier).insertAll later = table.insertAll later := by
  induction earlier generalizing table with
  | nil => rfl
  | cons entry rest inductionHypothesis =>
      obtain ⟨first, others⟩ := List.cons_subset.mp again
      exact (inductionHypothesis (table.insert entry.1 entry.2) others).trans
        (insertAll_insert_of_mem table entry.2 first)

theorem insertAll_append (table : Table α) (earlier later : List (String × α)) :
    table.insertAll (earlier ++ later) = (table.insertAll earlier).insertAll later :=
  List.foldl_append

/-- An entry whose key comes again makes no difference to a table. -/
theorem ofList_of_mem {key : String} {later : List (String × α)} (earlier : List (String × α))
    (value : α) (again : key ∈ later.map Prod.fst) :
    ofList (earlier ++ (key, value) :: later) = ofList (earlier ++ later) := by
  rw [ofList, insertAll_append, ofList, insertAll_append]
  exact insertAll_insert_of_mem _ value again

/-- A look-up is in vain exactly for the keys that no entry has. -/
theorem lookup_eq_none_iff {key : String} :
    lookup key entries = none ↔ key ∉ entries.map Prod.fst := by
  induction entries with
  | nil => simp [lookup]
  | cons head rest inductionHypothesis =>
      rw [lookup, List.map_cons, List.mem_cons, not_or, ← inductionHypothesis]
      by_cases same : key = head.1
      · simp [same]
      · simp [same]

/-- Insertions under other keys leave a key as it was. -/
theorem get?_insertAll_of_not_mem {key : String} (table : Table α)
    (others : key ∉ entries.map Prod.fst) : (table.insertAll entries).get? key = table.get? key := by
  have unknown : lookup key entries.reverse = none := by
    apply lookup_eq_none_iff.mpr
    rwa [List.map_reverse, List.mem_reverse]
  rw [get?_insertAll, unknown, Option.none_or]

/-- The last entry of a key counts. -/
theorem get?_ofList_of_not_mem {key : String} {later : List (String × α)}
    (earlier : List (String × α)) (value : α) (last : key ∉ later.map Prod.fst) :
    (ofList (earlier ++ (key, value) :: later)).get? key = some value := by
  rw [ofList, insertAll_append]
  exact (get?_insertAll_of_not_mem _ last).trans (get?_insert_self _ key value)

/-- Of entries that have each key once every one counts. -/
theorem get?_ofList_of_mem (once : (entries.map Prod.fst).Nodup) (member : (key, value) ∈ entries) :
    (ofList entries).get? key = some value := by
  obtain ⟨earlier, later, rfl⟩ := List.append_of_mem member
  rw [List.map_append, List.map_cons, List.nodup_append] at once
  exact get?_ofList_of_not_mem earlier value (List.nodup_cons.mp once.2.1).1

/-- Entries that have each key once are looked up in their table as in their list. -/
theorem get?_ofList (once : (entries.map Prod.fst).Nodup) (key : String) :
    (ofList entries).get? key = lookup key entries := by
  cases found : lookup key entries with
  | some value => exact get?_ofList_of_mem once (mem_of_lookup found)
  | none =>
      have others : key ∉ entries.map Prod.fst := lookup_eq_none_iff.mp found
      exact get?_insertAll_of_not_mem _ others

/-- Insertions under different keys may be worked off in any order. -/
theorem insertAll_perm {listed order : List (String × α)} (permuted : listed.Perm order)
    (once : (listed.map Prod.fst).Nodup) (table : Table α) :
    table.insertAll listed = table.insertAll order := by
  induction permuted generalizing table with
  | nil => rfl
  | cons entry _ inductionHypothesis =>
      exact inductionHypothesis (List.nodup_cons.mp once).2 (table.insert entry.1 entry.2)
  | swap entry another rest =>
      have different : another.1 ≠ entry.1 := fun same =>
        (List.nodup_cons.mp once).1 (List.mem_cons.mpr (.inl same))
      rw [insertAll, List.foldl_cons, List.foldl_cons, insertAll, List.foldl_cons,
        List.foldl_cons, insert_comm table different]
  | trans before _ first second =>
      exact (first once table).trans (second ((before.map Prod.fst).nodup_iff.mp once) table)

end Dialogue.Table

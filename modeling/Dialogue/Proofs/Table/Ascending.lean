import Dialogue.Table
/-!
# Ascending tables

Insertion and erasure keep the entries of a table in ascending order of their keys.  In such a table
a key has one entry, so looking a key up finds every entry that there is, and the number of entries
grows with the keys that are new.
-/

namespace Dialogue.Table

variable {α : Type} {key first : String} {value old : α} {entries rest : List (String × α)}

/-- The entries are in strictly ascending order of their keys. -/
def Ascending (table : Table α) : Prop :=
  table.entries.Pairwise fun earlier later => earlier.1 < later.1

/-- Of two different keys one is less than the other. -/
theorem lt_of_ne_of_not_lt (different : key ≠ first) (notLess : ¬key < first) : first < key := by
  by_cases less : first < key
  · exact less
  · exact absurd (String.le_antisymm (String.not_lt.mp less) (String.not_lt.mp notLess)) different

/-- An insertion adds one entry and keeps some of the others. -/
theorem mem_insertEntry {entry : String × α} (member : entry ∈ insertEntry key value entries) :
    entry = (key, value) ∨ entry ∈ entries := by
  induction entries with
  | nil => exact .inl (List.mem_singleton.mp member)
  | cons head rest inductionHypothesis =>
      obtain ⟨first, old⟩ := head
      rw [insertEntry] at member
      by_cases same : key = first
      · rw [if_pos same] at member
        exact (List.mem_cons.mp member).imp_right (List.mem_cons_of_mem _)
      · rw [if_neg same] at member
        by_cases less : key < first
        · rw [if_pos less] at member
          exact List.mem_cons.mp member
        · rw [if_neg less] at member
          rcases List.mem_cons.mp member with rfl | later
          · exact .inr List.mem_cons_self
          · exact (inductionHypothesis later).imp_right (List.mem_cons_of_mem _)

/-- Insertion finds the place of a key among ascending ones. -/
theorem pairwise_insertEntry (key : String) (value : α)
    (ascending : entries.Pairwise fun earlier later => earlier.1 < later.1) :
    (insertEntry key value entries).Pairwise fun earlier later => earlier.1 < later.1 := by
  induction entries with
  | nil => exact List.pairwise_singleton _ _
  | cons head rest inductionHypothesis =>
      obtain ⟨first, old⟩ := head
      obtain ⟨above, tail⟩ := List.pairwise_cons.mp ascending
      rw [insertEntry]
      by_cases same : key = first
      · subst same
        rw [if_pos rfl]
        exact List.pairwise_cons.mpr ⟨above, tail⟩
      · rw [if_neg same]
        by_cases less : key < first
        · rw [if_pos less]
          refine List.pairwise_cons.mpr ⟨?_, ascending⟩
          intro entry member
          rcases List.mem_cons.mp member with rfl | later
          · exact less
          · exact String.lt_trans less (above entry later)
        · rw [if_neg less]
          refine List.pairwise_cons.mpr ⟨?_, inductionHypothesis tail⟩
          intro entry member
          rcases mem_insertEntry member with rfl | later
          · exact lt_of_ne_of_not_lt same less
          · exact above entry later

/-- What a look-up finds is an entry. -/
theorem mem_of_lookup (found : lookup key entries = some value) : (key, value) ∈ entries := by
  induction entries with
  | nil => cases found
  | cons head rest inductionHypothesis =>
      obtain ⟨first, old⟩ := head
      rw [lookup] at found
      by_cases same : key = first
      · rw [if_pos same] at found
        rw [same, Option.some.inj found]
        exact List.mem_cons_self
      · rw [if_neg same] at found
        exact List.mem_cons_of_mem _ (inductionHypothesis found)

/-- Among ascending keys a look-up finds every entry. -/
theorem lookup_of_mem (ascending : entries.Pairwise fun earlier later => earlier.1 < later.1)
    (member : (key, value) ∈ entries) : lookup key entries = some value := by
  induction entries with
  | nil => cases member
  | cons head rest inductionHypothesis =>
      obtain ⟨above, tail⟩ := List.pairwise_cons.mp ascending
      rcases List.mem_cons.mp member with rfl | later
      · simp [lookup]
      · have greater : head.1 < key := above (key, value) later
        have different : key ≠ head.1 := fun same => String.lt_irrefl key (same ▸ greater)
        rw [lookup, if_neg different]
        exact inductionHypothesis tail later

/-- After an erasure a look-up finds any other key as before. -/
theorem lookup_filter_ne (entries : List (String × α)) (erased key : String) :
    lookup key (entries.filter fun entry => entry.1 != erased) =
      if key = erased then none else lookup key entries := by
  induction entries with
  | nil => simp [lookup]
  | cons head rest inductionHypothesis =>
      obtain ⟨first, old⟩ := head
      by_cases gone : first = erased
      · subst gone
        rw [List.filter_cons_of_neg (by simp), inductionHypothesis]
        by_cases same : key = first <;> simp [lookup, same]
      · by_cases same : key = first
        · subst same
          simp [lookup, gone]
        · simp [lookup, gone, same, inductionHypothesis]

/-- Reading after erasing: the erased key has no value, every other key keeps its own. -/
theorem get?_erase (table : Table α) (erased key : String) :
    (table.erase erased).get? key = if key = erased then none else table.get? key :=
  lookup_filter_ne table.entries erased key

/-! ### The number of entries -/

/-- Among keys that are all greater a look-up finds nothing. -/
theorem lookup_of_forall_lt (above : ∀ entry ∈ entries, key < entry.1) :
    lookup key entries = none := by
  induction entries with
  | nil => rfl
  | cons head rest inductionHypothesis =>
      obtain ⟨less, others⟩ := List.forall_mem_cons.mp above
      have different : key ≠ head.1 := fun same => String.lt_irrefl key (same ▸ less)
      rw [lookup, if_neg different]
      exact inductionHypothesis others

/-- Among ascending keys, each of which has one entry, a look-up may begin at either end. -/
theorem lookup_reverse (ascending : entries.Pairwise fun earlier later => earlier.1 < later.1)
    (key : String) : lookup key entries.reverse = lookup key entries := by
  induction entries with
  | nil => rfl
  | cons head rest inductionHypothesis =>
      obtain ⟨above, tail⟩ := List.pairwise_cons.mp ascending
      rw [List.reverse_cons, lookup_append, inductionHypothesis tail]
      by_cases same : key = head.1
      · have unknown : lookup key rest = none := lookup_of_forall_lt fun entry member => by
          rw [same]
          exact above entry member
        simp [lookup, same, same ▸ unknown]
      · simp [lookup, same]

/-- Among ascending keys an insertion adds an entry unless the key has one already. -/
theorem length_insertEntry
    (ascending : entries.Pairwise fun earlier later => earlier.1 < later.1) :
    (insertEntry key value entries).length =
      if (lookup key entries).isSome then entries.length else entries.length + 1 := by
  induction entries with
  | nil => rfl
  | cons head rest inductionHypothesis =>
      obtain ⟨first, old⟩ := head
      obtain ⟨above, tail⟩ := List.pairwise_cons.mp ascending
      rw [insertEntry, lookup]
      by_cases same : key = first
      · simp [same]
      · rw [if_neg same, if_neg same]
        by_cases less : key < first
        · have unknown : lookup key rest = none :=
            lookup_of_forall_lt fun entry member => String.lt_trans less (above entry member)
          simp [less, unknown]
        · rw [if_neg less, List.length_cons, inductionHypothesis tail, List.length_cons]
          split <;> rfl

theorem size_erase_le (table : Table α) (key : String) : (table.erase key).size ≤ table.size :=
  List.length_filter_le _ _

namespace Ascending

theorem empty : (Table.empty : Table α).Ascending :=
  .nil

theorem insert {table : Table α} (ascending : table.Ascending) (key : String) (value : α) :
    (table.insert key value).Ascending :=
  pairwise_insertEntry key value ascending

theorem erase {table : Table α} (ascending : table.Ascending) (key : String) :
    (table.erase key).Ascending :=
  List.Pairwise.filter _ ascending

/-- An ascending table has each key once. -/
theorem nodup_keys {table : Table α} (ascending : table.Ascending) : table.keys.Nodup := by
  refine List.Pairwise.map Prod.fst ?_ ascending
  intro earlier later less same
  exact String.lt_irrefl _ (same ▸ less)

/-- Setting a key of an ascending table adds an entry unless the key has a value. -/
theorem size_insert {table : Table α} (ascending : table.Ascending) (key : String) (value : α) :
    (table.insert key value).size =
      if (table.get? key).isSome then table.size else table.size + 1 :=
  length_insertEntry ascending

/-- Reading what is set over a table asks the upper entries first, where these are ascending. -/
theorem get?_overlay {upper : Table α} (ascending : upper.Ascending) (lower : Table α)
    (key : String) : (lower.overlay upper).get? key = (upper.get? key).or (lower.get? key) := by
  rw [overlay, get?_insertAll, lookup_reverse ascending]
  rfl

/-- In an ascending table the entries are what look-ups find. -/
theorem mem_entries_iff {table : Table α} (ascending : table.Ascending) :
    (key, value) ∈ table.entries ↔ table.get? key = some value :=
  ⟨lookup_of_mem ascending, mem_of_lookup⟩

theorem insertIfAbsent {table : Table α} (ascending : table.Ascending) (key : String) (value : α) :
    (table.insertIfAbsent key value).Ascending := by
  rw [Table.insertIfAbsent]
  cases table.contains key with
  | true => exact ascending
  | false => exact ascending.insert key value

theorem insertAll {table : Table α} (ascending : table.Ascending) (entries : List (String × α)) :
    (table.insertAll entries).Ascending := by
  induction entries generalizing table with
  | nil => exact ascending
  | cons entry rest inductionHypothesis => exact inductionHypothesis (ascending.insert _ _)

theorem ofList (entries : List (String × α)) : (Table.ofList entries).Ascending :=
  empty.insertAll entries

/-- Ascending tables in which all look-ups agree are the same. -/
theorem ext {one other : Table α} (oneAscending : one.Ascending) (otherAscending : other.Ascending)
    (same : ∀ key, one.get? key = other.get? key) : one = other := by
  have nodup {table : Table α} (ascending : table.Ascending) : table.entries.Nodup := by
    refine List.Pairwise.imp ?_ ascending
    rintro earlier later less rfl
    exact String.lt_irrefl _ less
  have permuted : one.entries.Perm other.entries := by
    refine (List.perm_ext_iff_of_nodup (nodup oneAscending) (nodup otherAscending)).mpr ?_
    rintro ⟨key, value⟩
    rw [mem_entries_iff oneAscending, mem_entries_iff otherAscending, same]
  have listed : one.entries = other.entries :=
    permuted.eq_of_pairwise (fun _ _ _ _ less greater =>
      absurd (String.lt_trans less greater) (String.lt_irrefl _)) oneAscending otherAscending
  cases one
  cases other
  rw [Table.mk.injEq]
  exact listed

/-- An ascending table is the table of its entries. -/
theorem ofList_entries {table : Table α} (ascending : table.Ascending) :
    Table.ofList table.entries = table := by
  refine (ofList table.entries).ext ascending fun key => ?_
  rw [Table.ofList, get?_insertAll, lookup_reverse ascending, get?_empty, Option.or_none]
  rfl

end Ascending

end Dialogue.Table

import Dialogue.Cli.Option
import Dialogue.Proofs.Json.Printing
import Dialogue.Proofs.Table.Insertion
/-!
# Options of the command line

An argument is an option if a key stands before its first equals sign.  What follows the sign is a
value if it is the text of one, and otherwise it is taken as it stands.  So every table of values
can be given by options, one for each entry and in any order.
-/

namespace Dialogue.Cli

/-- A key before the first equals sign of an argument, and the text behind the sign. -/
structure Splits (raw key : String) (text : List Char) : Prop where
  keyed : key ≠ ""
  first : '=' ∉ key.toList
  whole : raw.toList = key.toList ++ '=' :: text

/-- The option for an entry. -/
def optionText (entry : String × Json) : String :=
  entry.1 ++ "=" ++ entry.2.compact

/-- An entry for which there is an option. -/
structure Passable (entry : String × Json) : Prop where
  keyed : entry.1 ≠ ""
  noSeparator : '=' ∉ entry.1.toList
  portable : Json.Portable entry.2

/-- An argument is read as the key and the value of what stands behind its first equals sign. -/
theorem Splits.parseOption {raw key : String} {text : List Char} (splits : Splits raw key text) :
    parseOption raw = .ok (key, optionValue text) := by
  have front : ∀ c ∈ key.toList, (c != '=') = true := by
    intro c member
    have other : c ≠ '=' := fun same => splits.first (same ▸ member)
    simpa using other
  have nonempty : key.toList ≠ [] := fun nothing =>
    splits.keyed (String.toList_inj.mp (nothing.trans String.toList_empty.symm))
  rw [Cli.parseOption, splits.whole, List.takeWhile_append_of_pos front,
    List.dropWhile_append_of_pos front]
  obtain ⟨c, others, same⟩ := List.exists_cons_of_ne_nil nonempty
  have again : String.ofList (c :: others) = key := same ▸ String.ofList_toList
  simp [same, again]

/-- What is read as an option has a key before its first equals sign. -/
theorem splits_of_parseOption {raw : String} {option : String × Json}
    (read : parseOption raw = .ok option) : ∃ text, Splits raw option.1 text := by
  have whole : raw.toList =
      raw.toList.takeWhile (· != '=') ++ raw.toList.dropWhile (· != '=') :=
    List.takeWhile_append_dropWhile.symm
  have noSeparator : '=' ∉ raw.toList.takeWhile (· != '=') := by
    intro member
    have other := List.all_eq_true.mp List.all_takeWhile _ member
    simp at other
  unfold parseOption at read
  split at read
  · cases read
  · cases read
  · next mark text found nonempty =>
      cases read
      have separator : mark = '=' := by
        have stops := List.head?_dropWhile_not (· != '=') raw.toList
        rw [found] at stops
        simpa using stops
      rw [found, separator] at whole
      refine ⟨text, ?_, ?_, ?_⟩
      · intro same
        have nothing := congrArg String.toList same
        rw [String.toList_ofList, String.toList_empty] at nothing
        exact nonempty nothing
      · rwa [String.toList_ofList]
      · rwa [String.toList_ofList]

/-- The option for an entry is read as this entry. -/
theorem Passable.parseOption {entry : String × Json} (passable : Passable entry) :
    parseOption (optionText entry) = .ok entry := by
  have splits : Splits (optionText entry) entry.1 entry.2.chars := by
    refine ⟨passable.keyed, passable.noSeparator, ?_⟩
    simp [optionText, Json.compact]
  rw [splits.parseOption, optionValue, passable.portable.ofCharsWithin?]

/-- Every table of values is carried by one option for each entry, in any order.  An argument is an
option exactly if a key stands before its first equals sign; what follows the sign is taken as JSON
if it is the text of a value, else as it stands.  Of two options with one key the later one
counts. -/
theorem options_carry_tables :
    (∀ (options : Table Json) (order : List (String × Json)), options.Ascending →
      (∀ entry ∈ options.entries, Passable entry) → order.Perm options.entries →
      ((order.map optionText).mapM parseOption).map Table.ofList = .ok options) ∧
    (∀ raw : String, (∃ option, parseOption raw = .ok option) ↔ ∃ key text, Splits raw key text) ∧
    (∀ (raw key : String) (text : List Char), Splits raw key text →
      (∀ value, Json.Written Json.maxDepth text value → parseOption raw = .ok (key, value)) ∧
      ((∀ value, ¬Json.Written Json.maxDepth text value) →
        parseOption raw = .ok (key, .str (String.ofList text)))) ∧
    ∀ (earlier between later : List (String × Json)) (key : String) (old new : Json),
      key ∉ later.map Prod.fst →
      let options := Table.ofList (earlier ++ (key, old) :: (between ++ (key, new) :: later))
      options = Table.ofList (earlier ++ (between ++ (key, new) :: later)) ∧
        options.get? key = some new := by
  refine ⟨?_, ?_, ?_, ?_⟩
  · intro options order ascending passable permuted
    have keys : (order.map Prod.fst).Nodup :=
      (permuted.map Prod.fst).nodup_iff.mpr ascending.nodup_keys
    have read : (order.map optionText).mapM parseOption = .ok order :=
      Json.mapM_map_of_forall fun entry member =>
        (passable entry (permuted.mem_iff.mp member)).parseOption
    have same : Table.ofList order = options :=
      (Table.insertAll_perm permuted keys Table.empty).trans ascending.ofList_entries
    rw [read, Except.map, same]
  · intro raw
    constructor
    · rintro ⟨option, read⟩
      obtain ⟨text, splits⟩ := splits_of_parseOption read
      exact ⟨option.1, text, splits⟩
    · rintro ⟨key, text, splits⟩
      exact ⟨(key, optionValue text), splits.parseOption⟩
  · intro raw key text splits
    rw [splits.parseOption]
    constructor
    · intro value written
      rw [optionValue, Json.ofCharsWithin?_eq_some_iff.mpr written]
    · intro nothing
      rw [optionValue, Json.ofCharsWithin?_eq_none_iff.mpr nothing]
  · intro earlier between later key old new last
    have again : key ∈ (between ++ (key, new) :: later).map Prod.fst := by simp
    refine ⟨Table.ofList_of_mem earlier old again, ?_⟩
    rw [Table.ofList_of_mem earlier old again, ← List.append_assoc]
    exact Table.get?_ofList_of_not_mem _ new last

/-- Options with nested values in descending order of their keys; a text with an equals sign in it;
and a number in place of a text. -/
theorem mixed_options_read :
    let options : Table Json :=
      ⟨[("a", .arr [.word 1, .str "x=y"]), ("b", .obj ⟨[("k", .null), ("l", .bool true)]⟩)]⟩
    ((options.entries.reverse.map optionText).mapM parseOption).map Table.ofList = .ok options ∧
    parseOption "url=a=b" = .ok ("url", .str "a=b") ∧
    parseOption "n= 7" = .ok ("n", .word 7) ∧
    (Table.ofList [("n", Json.str "x"), ("n", Json.word 7)]).get? "n" = some (.word 7) := by
  intro options
  have ascending : options.Ascending := by
    simp only [options, Table.Ascending]
    decide
  have passable : ∀ entry ∈ options.entries, Passable entry := by
    intro entry member
    simp only [options, List.mem_cons, List.not_mem_nil, or_false] at member
    rcases member with rfl | rfl
    · exact ⟨by decide, by decide, ⟨⟨trivial, trivial, trivial⟩, rfl, by decide⟩⟩
    · exact ⟨by decide, by decide, ⟨⟨trivial, trivial, trivial⟩, rfl, by decide⟩⟩
  obtain ⟨carried, _, read, counts⟩ := options_carry_tables
  refine ⟨carried options _ ascending passable (List.reverse_perm _), ?_, ?_, ?_⟩
  · exact (read "url=a=b" "url" ['a', '=', 'b'] ⟨by decide, by decide, rfl⟩).2
      (Json.ofCharsWithin?_eq_none_iff.mp rfl)
  · exact (read "n= 7" "n" [' ', '7'] ⟨by decide, by decide, rfl⟩).1 (.word 7)
      (Json.ofCharsWithin?_eq_some_iff.mp rfl)
  · exact (counts [] [] [] "n" (.str "x") (.word 7) (by simp)).2

end Dialogue.Cli

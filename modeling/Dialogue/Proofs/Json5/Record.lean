import Dialogue.Proofs.Json5.Reading
/-!
# Reading printed records

The tree of a printed text or word is read as what was printed, up to the rounding of words.  A record
is read from the members of an object one after the other: each must be known and may come only once.
-/

namespace Dialogue.Json5

/-! ### Texts and words -/

/-- The tree that a printed text is read as. -/
def textTree (text : String) : Tree :=
  .str (text.toList.map printedPiece)

theorem printedTree?_str {text : String} (legible : Legible text.toList) :
    printedTree? (.str text) = some (textTree text) := by
  rw [printedTree?, if_pos legible]
  rfl

theorem printedItems?_texts {texts : List String} (legible : ∀ text ∈ texts, Legible text.toList) :
    printedItems? (texts.map .str) = some (texts.map textTree) := by
  induction texts with
  | nil => rfl
  | cons text texts inductionHypothesis =>
      obtain ⟨first, later⟩ := List.forall_mem_cons.mp legible
      rw [List.map_cons, printedItems?, printedTree?_str first, inductionHypothesis later]
      rfl

theorem readText_textTree (text : String) : (textTree text).readText = .ok text :=
  text_printed text

theorem readOptional_textTree (text : String) :
    (textTree text).readOptional (·.readText) = .ok (some text) := by
  have read : (textTree text).readOptional (·.readText) = (textTree text).readText.map some := rfl
  rw [read, readText_textTree]
  rfl

theorem readList_textTrees (texts : List String) :
    (Tree.arr (texts.map textTree)).readList (·.readText) = .ok texts := by
  rw [Tree.readList]
  induction texts with
  | nil => rfl
  | cons text texts inductionHypothesis =>
      rw [List.map_cons, List.mapM_cons, readText_textTree, inductionHypothesis]
      rfl

/-- The tree that a printed word is read as. -/
def wordTree (value : UInt64) : Tree :=
  .num ⟨.none, .decimal (decimalDigits value.toNat) none none⟩

/-- A printed word is read as it was before printing exactly if it is a double. -/
theorem readWord_wordTree_eq_ok_iff {value : UInt64} :
    (wordTree value).readWord = .ok value ↔ ExactWord value :=
  readWord_digits_eq_ok_iff value

/-! ### Members -/

/-- What is read is put into a record. -/
theorem read_into {α ρ : Type} {read : Except Misfit α} {a : α} {put : α → ρ}
    (found : read = .ok a) : (do return put (← read)) = .ok (put a) := by
  rw [found]
  rfl

/-- A member that is known and new is read by its field. -/
theorem readMembers_known {ρ : Type} {record : Record ρ} {seen : List String} {key : String}
    {field : Field ρ} (known : record.fields.find? (·.name == key) = some field)
    (new : key ∉ seen) (value : ρ) (tree : Tree) (rest : List (List Piece × Tree)) :
    record.readMembers seen value ((key.toList.map printedPiece, tree) :: rest) =
      (field.read tree value).bind fun value => record.readMembers (key :: seen) value rest := by
  have notSeen : seen.contains key = false := by simpa using new
  rw [Record.readMembers, text_printed]
  simp only [bind, Except.bind, known, notSeen, Bool.false_eq_true, if_false]

/-- What reading the trees of printed members comes to, after any of these keys. -/
def Reads {ρ : Type} (record : Record ρ) (keys : List String) (value : ρ)
    (members : List (String × Json)) (result : Except Misfit ρ) : Prop :=
  ∃ trees, printedMembers? members = some trees ∧
    ∀ seen, seen ⊆ keys → record.readMembers seen value trees = result

namespace Reads

variable {ρ α : Type} {record : Record ρ} {keys : List String} {value : ρ} {key : String}
  {field : Field ρ} {json : Json} {tree : Tree} {rest : List (String × Json)}
  {result : Except Misfit ρ}

theorem nil : Reads record keys value [] (.ok value) :=
  ⟨[], rfl, fun _ _ => rfl⟩

theorem cons (known : record.fields.find? (·.name == key) = some field) (new : key ∉ keys)
    (legible : Legible key.toList) (printed : printedTree? json = some tree) (next : ρ)
    (read : field.read tree value = .ok next) (more : Reads record (key :: keys) next rest result) :
    Reads record keys value ((key, json) :: rest) result := by
  obtain ⟨trees, printedRest, readRest⟩ := more
  refine ⟨(key.toList.map printedPiece, tree) :: trees, ?_, fun seen among => ?_⟩
  · rw [printedMembers?, if_pos legible, printed, printedRest]
    rfl
  · rw [readMembers_known known (fun member => new (among member)), read]
    exact readRest _ (List.cons_subset_cons key among)

/-- The last member decides what the reading comes to. -/
theorem last (known : record.fields.find? (·.name == key) = some field) (new : key ∉ keys)
    (legible : Legible key.toList) (printed : printedTree? json = some tree) :
    Reads record keys value [(key, json)] (field.read tree value) := by
  refine ⟨[(key.toList.map printedPiece, tree)], ?_, fun seen among => ?_⟩
  · rw [printedMembers?, if_pos legible, printed]
    rfl
  · rw [readMembers_known known fun member => new (among member)]
    cases field.read tree value <;> rfl

/-- A member that may be left out. -/
theorem optional {item : Option α} {print : α → Json} (next : Option α → ρ)
    (known : record.fields.find? (·.name == key) = some field) (new : key ∉ keys)
    (legible : Legible key.toList)
    (present : ∀ a ∈ item, ∃ tree, printedTree? (print a) = some tree ∧
      field.read tree (next none) = .ok (next (some a)))
    (more : Reads record (key :: keys) (next item) rest result) :
    Reads record keys (next none) ((item.map fun a => (key, print a)).toList ++ rest) result := by
  cases item with
  | none =>
      obtain ⟨trees, printedRest, readRest⟩ := more
      exact ⟨trees, printedRest, fun seen among =>
        readRest seen (List.subset_cons_of_subset key among)⟩
  | some a =>
      obtain ⟨tree, printed, read⟩ := present a rfl
      exact cons known new legible printed _ read more

/-- An object is read as a record by reading its members, also where it may be null. -/
theorem object {members : List (String × Json)}
    (reads : Reads record [] record.start members result) :
    ∃ tree, printedTree? (.obj ⟨members⟩) = some tree ∧ record.read tree = result ∧
      tree.readOptional record.read = result.map some := by
  obtain ⟨trees, printed, read⟩ := reads
  have readAll := read [] (List.Subset.refl _)
  refine ⟨.obj trees, ?_, readAll, ?_⟩
  · rw [printedTree?, printed]
    rfl
  · rw [← readAll]
    rfl

end Reads

end Dialogue.Json5

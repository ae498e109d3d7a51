import Dialogue.Text.Blank
import Dialogue.Text.Split
/-!
# Lines and the white space around them

Splitting a text where a separator stands splits it on both sides of the separator.  So its parts
are the texts without a separator that reach from one separator, or an end of the text, to the next.
Trimming takes the white space from both ends of a line, up to a character that is none.
-/

namespace Dialogue.Text

/-! ### Parts -/

theorem extendFirst_append (c : Char) {parts : List (List Char)} (nonempty : parts ≠ [])
    (others : List (List Char)) :
    extendFirst c (parts ++ others) = extendFirst c parts ++ others := by
  cases parts with
  | nil => exact absurd rfl nonempty
  | cons part rest => rfl

/-- A text is split on both sides of a separator. -/
theorem split_append (separator : Char) (first second : List Char) :
    split separator (first ++ separator :: second) =
      split separator first ++ split separator second := by
  induction first with
  | nil => simp [split]
  | cons c rest inductionHypothesis =>
      rw [List.cons_append, split, split, inductionHypothesis]
      by_cases same : c = separator
      · simp [same]
      · rw [if_neg same, if_neg same, extendFirst_append c (split_ne_nil separator rest)]

/-- A text without a separator is its only part. -/
theorem split_of_not_mem {separator : Char} {text : List Char} (none : separator ∉ text) :
    split separator text = [text] := by
  induction text with
  | nil => rfl
  | cons c rest inductionHypothesis =>
      rw [List.mem_cons, not_or] at none
      rw [split, if_neg (Ne.symm none.1), inductionHypothesis none.2]
      rfl

/-- A text without a separator that has separators, or the ends of the text, on both sides. -/
structure IsPart (separator : Char) (text part : List Char) : Prop where
  unbroken : separator ∉ part
  between : ∃ before after, text = before ++ (part ++ after) ∧
    (before = [] ∨ ∃ earlier, before = earlier ++ [separator]) ∧
    (after = [] ∨ ∃ later, after = separator :: later)

/-- Splitting finds such texts. -/
theorem isPart_of_mem_split {separator : Char} {text part : List Char}
    (member : part ∈ split separator text) : IsPart separator text part := by
  by_cases separated : separator ∈ text
  · obtain ⟨line, rest, rfl, unbroken⟩ := List.eq_append_cons_of_mem separated
    rw [split_append, split_of_not_mem unbroken, List.singleton_append, List.mem_cons] at member
    rcases member with rfl | later
    · exact ⟨unbroken, [], separator :: rest, rfl, .inl rfl, .inr ⟨rest, rfl⟩⟩
    · obtain ⟨whole, before, after, rfl, opens, closes⟩ := isPart_of_mem_split later
      refine ⟨whole, line ++ separator :: before, after, by simp, .inr ?_, closes⟩
      rcases opens with rfl | ⟨earlier, rfl⟩
      · exact ⟨line, rfl⟩
      · exact ⟨line ++ separator :: earlier, by simp⟩
  · rw [split_of_not_mem separated, List.mem_singleton] at member
    exact ⟨member ▸ separated, [], [], by simp [member], .inl rfl, .inl rfl⟩
termination_by text.length

/-- Splitting finds all such texts. -/
theorem mem_split_iff {separator : Char} {text part : List Char} :
    part ∈ split separator text ↔ IsPart separator text part := by
  refine ⟨isPart_of_mem_split, ?_⟩
  rintro ⟨unbroken, before, after, rfl, opens, closes⟩
  have first : part ∈ split separator (part ++ after) := by
    rcases closes with rfl | ⟨later, rfl⟩
    · rw [List.append_nil, split_of_not_mem unbroken]
      exact List.mem_singleton_self part
    · rw [split_append, split_of_not_mem unbroken]
      exact List.mem_cons_self
  rcases opens with rfl | ⟨earlier, rfl⟩
  · exact first
  · rw [List.append_assoc, List.singleton_append, split_append]
    exact List.mem_append_right _ first

/-! ### White space -/

/-- Nothing but white space. -/
def Blank (text : List Char) : Prop :=
  ∀ c ∈ text, isBlank c = true

theorem trimFront_append {before : List Char} (blank : Blank before) (text : List Char) :
    trimFront (before ++ text) = trimFront text :=
  List.dropWhile_append_of_pos blank

theorem trimFront_cons {c : Char} (text : List Char) (visible : isBlank c = false) :
    trimFront (c :: text) = c :: text := by
  simp [trimFront, visible]

/-- Nothing is left of white space. -/
theorem trim_of_blank {text : List Char} (blank : Blank text) : trim text = [] := by
  have front := trimFront_append blank []
  rw [List.append_nil] at front
  rw [trim, front]
  rfl

/-- What is left of a text begins with its first character that is no white space. -/
theorem trim_append_cons {before : List Char} (blank : Blank before) {c : Char}
    (text : List Char) (visible : isBlank c = false) :
    ∃ rest, trim (before ++ c :: text) = c :: rest := by
  have last : trimFront (text.reverse ++ [c]) = trimFront text.reverse ++ [c] := by
    induction text.reverse with
    | nil => exact trimFront_cons [] visible
    | cons d rest inductionHypothesis =>
        by_cases blank : isBlank d = true
        · simpa [trimFront, blank] using inductionHypothesis
        · simp [trimFront, blank]
  refine ⟨(trimFront text.reverse).reverse, ?_⟩
  rw [trim, trimFront_append blank, trimFront_cons text visible, List.reverse_cons, last]
  simp

/-- White space around a text that has none at its ends is taken off. -/
theorem trim_append {before after text : List Char} (blankBefore : Blank before)
    (blankAfter : Blank after) (first : ∃ c tail, text = c :: tail ∧ isBlank c = false)
    (last : ∃ front c, text = front ++ [c] ∧ isBlank c = false) :
    trim (before ++ (text ++ after)) = text := by
  obtain ⟨c, tail, opens, visible⟩ := first
  obtain ⟨front, d, closes, visibleLast⟩ := last
  have blankReversed : Blank after.reverse := fun c member =>
    blankAfter c (List.mem_reverse.mp member)
  rw [trim, trimFront_append blankBefore, opens, List.cons_append, trimFront_cons _ visible,
    ← List.cons_append, ← opens, List.reverse_append, trimFront_append blankReversed, closes,
    List.reverse_append, List.reverse_singleton, List.singleton_append,
    trimFront_cons _ visibleLast]
  simp

end Dialogue.Text

import Dialogue.Proofs.Json.Printing
import Dialogue.Proofs.Text.Lines
import Dialogue.Run.Transport
/-!
# Transcripts

A transcript is laid out in lines: one for each frame, with blank lines and remarks anywhere between
them and white space around what stands on a line.  Such a text is read as its frames in order,
whatever the layout, and the replay of them has all of these to hand out and nothing sent.  Any
other text is refused exactly where a line that is neither blank nor a remark is not JSON.
-/

namespace Dialogue

open Dialogue.Json (Portable)

namespace Transcript

/-! ### Layouts -/

/-- White space that breaks no line. -/
def Spaces (text : List Char) : Prop :=
  ∀ c ∈ text, Text.isBlank c = true ∧ c ≠ '\n'

instance (text : List Char) : Decidable (Spaces text) :=
  List.decidableBAll (fun c : Char => Text.isBlank c = true ∧ c ≠ '\n') text

/-- What stands on a line before its end. -/
inductive Line where
  | blank (spaces : List Char) (blank : Spaces spaces)
  | remark (before content : List Char) (blank : Spaces before) (unbroken : '\n' ∉ content)
  | frame (before : List Char) (value : Json) (after : List Char) (blankBefore : Spaces before)
      (portable : Portable value) (blankAfter : Spaces after)

namespace Line

def text : Line → List Char
  | blank spaces _ => spaces
  | remark before content _ _ => before ++ '#' :: content
  | frame before value after _ _ _ => before ++ (value.chars ++ after)

def value? : Line → Option Json
  | frame _ value _ _ _ _ => some value
  | _ => none

end Line

inductive LineEnd where
  | lineFeed
  | carriageReturn

/-- The line feed of a line's end, and what stands before it. -/
def LineEnd.text : LineEnd → List Char
  | lineFeed => ['\n']
  | carriageReturn => ['\r', '\n']

/-- Lines with their ends, and possibly a last line that has none. -/
structure Layout where
  lines : List (Line × LineEnd)
  last : Option Line

namespace Layout

def text (layout : Layout) : List Char :=
  layout.lines.flatMap (fun (line, ending) => line.text ++ ending.text) ++
    (layout.last.map Line.text).getD []

/-- The values on the lines that hold frames. -/
def values (layout : Layout) : List Json :=
  layout.lines.filterMap (·.1.value?) ++ (layout.last.bind Line.value?).toList

end Layout

/-! ### Frames line by line -/

/-- The lines on both sides of a line feed hold frames of their own. -/
theorem frameLines_append (first second : List Char) :
    frameLines (first ++ '\n' :: second) = frameLines first ++ frameLines second := by
  simp only [frameLines, Text.split_append, List.map_append, List.filter_append]

/-- What a line without a line feed holds. -/
theorem frameLines_of_not_mem {line : List Char} (unbroken : '\n' ∉ line) :
    frameLines line = if holdsFrame (Text.trim line) then [Text.trim line] else [] := by
  rw [frameLines, Text.split_of_not_mem unbroken, List.map_singleton, List.filter_cons,
    List.filter_nil]

theorem Spaces.blank {text : List Char} (spaces : Spaces text) : Text.Blank text :=
  fun c member => (spaces c member).1

theorem Spaces.unbroken {text : List Char} (spaces : Spaces text) : '\n' ∉ text :=
  fun member => (spaces '\n' member).2 rfl

theorem Spaces.append {first second : List Char} (one : Spaces first) (other : Spaces second) :
    Spaces (first ++ second) :=
  List.forall_mem_append.mpr ⟨one, other⟩

/-- The text of a value stands on one line. -/
theorem unbroken_chars {value : Json} (portable : Portable value) : '\n' ∉ value.chars :=
  fun member => absurd (Json.printable_chars value portable.whole '\n' member) (by decide)

/-- A line holds the text of its value, if it has one, and nothing else. -/
theorem frameLines_line (line : Line) {tail : List Char} (spaces : Spaces tail) :
    frameLines (line.text ++ tail) = line.value?.toList.map Json.chars := by
  cases line with
  | blank before blank =>
      have all := blank.append spaces
      rw [Line.text, frameLines_of_not_mem all.unbroken, Text.trim_of_blank all.blank]
      rfl
  | remark before content blank unbroken =>
      have whole : '\n' ∉ before ++ '#' :: (content ++ tail) := by
        simp [blank.unbroken, unbroken, spaces.unbroken]
      obtain ⟨rest, trimmed⟩ := Text.trim_append_cons blank.blank (content ++ tail)
        (c := '#') rfl
      rw [Line.text, List.append_assoc, List.cons_append, frameLines_of_not_mem whole, trimmed]
      rfl
  | frame before value after blankBefore portable blankAfter =>
      have whole : '\n' ∉ before ++ (value.chars ++ (after ++ tail)) := by
        simp [blankBefore.unbroken, unbroken_chars portable, blankAfter.unbroken, spaces.unbroken]
      have framed := Json.framed_of_spells portable.spells
      obtain ⟨c, others, opens, solid⟩ := framed.start
      have trimmed := Text.trim_append blankBefore.blank (blankAfter.append spaces).blank
        ⟨c, others, opens, solid.1⟩
        (framed.ending.imp fun _ => .imp fun _ ending => ⟨ending.1, ending.2.1⟩)
      have holds : holdsFrame value.chars = true := by
        simp [opens, holdsFrame, solid.2]
      rw [Line.text, List.append_assoc, List.append_assoc, frameLines_of_not_mem whole, trimmed,
        if_pos holds]
      rfl

/-- A layout holds the texts of its values. -/
theorem frameLines_layout (layout : Layout) :
    frameLines layout.text = layout.values.map Json.chars := by
  obtain ⟨lines, last⟩ := layout
  simp only [Layout.text, Layout.values]
  induction lines with
  | nil =>
      cases last with
      | none => rfl
      | some line =>
          have nothing : Spaces [] := by decide
          simpa using frameLines_line line nothing
  | cons first others inductionHypothesis =>
      obtain ⟨line, ending⟩ := first
      have ended : ∃ tail, Spaces tail ∧ ending.text = tail ++ ['\n'] := by
        cases ending with
        | lineFeed => exact ⟨[], by decide, rfl⟩
        | carriageReturn => exact ⟨['\r'], by decide, rfl⟩
      obtain ⟨tail, spaces, same⟩ := ended
      have cut (rest : List Char) :
          line.text ++ ending.text ++ rest = (line.text ++ tail) ++ '\n' :: rest := by
        simp [same]
      rw [List.flatMap_cons, List.append_assoc, cut, frameLines_append,
        frameLines_line line spaces, inductionHypothesis]
      cases value : line.value? <;> simp [value]

/-! ### All lines -/

theorem portable_of_value? {line : Line} {value : Json} (holds : line.value? = some value) :
    Portable value := by
  cases line with
  | frame _ _ _ _ portable _ => exact Option.some.inj holds ▸ portable
  | blank => cases holds
  | remark => cases holds

theorem portable_of_mem_values {layout : Layout} {value : Json}
    (member : value ∈ layout.values) : Portable value := by
  rcases List.mem_append.mp member with inLines | inLast
  · obtain ⟨_, _, holds⟩ := List.mem_filterMap.mp inLines
    exact portable_of_value? holds
  · obtain ⟨_, _, holds⟩ := Option.bind_eq_some_iff.mp (Option.mem_toList.mp inLast)
    exact portable_of_value? holds

/-- A transcript is read as the values of its layout. -/
theorem frames_layout (layout : Layout) :
    frames (String.ofList layout.text) = .ok layout.values := by
  rw [frames, String.toList_ofList, frameLines_layout]
  refine Json.mapM_map_of_forall fun value member => ?_
  rw [readFrame, (portable_of_mem_values member).ofCharsWithin?]

theorem holdsFrame_iff {content : List Char} :
    holdsFrame content = true ↔ content ≠ [] ∧ content.head? ≠ some '#' := by
  cases content <;> simp [holdsFrame]

/-- The lines that hold frames. -/
theorem mem_frameLines_iff {text content : List Char} :
    content ∈ frameLines text ↔
      ∃ line, Text.IsPart '\n' text line ∧ Text.trim line = content ∧
        content ≠ [] ∧ content.head? ≠ some '#' := by
  rw [frameLines, List.mem_filter, List.mem_map, holdsFrame_iff]
  simp only [Text.mem_split_iff]
  constructor
  · rintro ⟨⟨line, part, trimmed⟩, holds⟩
    exact ⟨line, part, trimmed, holds⟩
  · rintro ⟨line, part, trimmed, holds⟩
    exact ⟨⟨line, part, trimmed⟩, holds⟩

/-- A frame is refused if its line is not JSON. -/
theorem exists_error_readFrame_iff {content : List Char} :
    (∃ error, readFrame content = .error error) ↔
      ∀ value, ¬Json.Written Json.maxDepth content value := by
  rw [← Json.ofCharsWithin?_eq_none_iff, readFrame]
  cases Json.ofCharsWithin? Json.maxDepth content <;> simp

/-- A list is refused if one of its items is. -/
theorem exists_error_mapM_iff {α β ε : Type} {read : α → Except ε β} {items : List α} :
    (∃ error, items.mapM read = .error error) ↔
      ∃ item ∈ items, ∃ error, read item = .error error := by
  induction items with
  | nil => simp [pure, Except.pure]
  | cons item others inductionHypothesis =>
      rw [List.mapM_cons]
      cases first : read item with
      | error cause => simp [first, bind, Except.bind]
      | ok value =>
          simp only [List.mem_cons, exists_eq_or_imp, first, reduceCtorEq, exists_false, false_or]
          rw [← inductionHypothesis]
          cases others.mapM read <;> simp [bind, Except.bind, pure, Except.pure]

/-- A transcript is read as its frames in their order, with whatever blank lines, remarks, white
space and line ends, and the replay of it has all of them before it and nothing behind it.  A text
is refused exactly if some line of it is not JSON, apart from white space around it, and neither
blank nor a remark. -/
theorem transcript_read_back :
    (∀ layout : Layout,
      frames (String.ofList layout.text) = .ok layout.values ∧
      Replay.ofFrames layout.values =
        { incoming := layout.values.map Arrival.ofJson, sent := [] } ∧
      Transport.backlog (Replay.ofFrames layout.values) = layout.values.length) ∧
    ∀ text : String,
      (∃ error, frames text = .error error) ↔
        ∃ line, Text.IsPart '\n' text.toList line ∧
          Text.trim line ≠ [] ∧ (Text.trim line).head? ≠ some '#' ∧
          ∀ value, ¬Json.Written Json.maxDepth (Text.trim line) value := by
  refine ⟨fun layout => ⟨frames_layout layout, rfl, List.length_map _⟩, fun text => ?_⟩
  rw [frames, exists_error_mapM_iff]
  simp only [mem_frameLines_iff, exists_error_readFrame_iff]
  constructor
  · rintro ⟨_, ⟨line, part, rfl, nonempty, noRemark⟩, refused⟩
    exact ⟨line, part, nonempty, noRemark, refused⟩
  · rintro ⟨line, part, nonempty, noRemark, refused⟩
    exact ⟨Text.trim line, ⟨line, part, rfl, nonempty, noRemark⟩, refused⟩

/-- A number sign and a line feed inside a text, a remark, white space and both line ends; and a
trailing comma. -/
theorem noisy_transcript_read :
    frames "# [\r\n \n\t[\"#\\n\",1] \n7" = .ok [.arr [.str "#\n", .word 1], .word 7] ∧
    ∃ error, frames "1\n [1,]\n" = .error error := by
  obtain ⟨laidOut, refused⟩ := transcript_read_back
  constructor
  · have spaces : Spaces [] ∧ Spaces [' '] ∧ Spaces ['\t'] := by decide
    let layout : Layout := {
      lines :=
        [(.remark [] [' ', '['] spaces.1 (by decide), .carriageReturn),
          (.blank [' '] spaces.2.1, .lineFeed),
          (.frame ['\t'] (.arr [.str "#\n", .word 1]) [' '] spaces.2.2
            ⟨⟨trivial, trivial, trivial⟩, rfl, by decide⟩ spaces.2.1, .lineFeed)]
      last := some (.frame [] (.word 7) [] spaces.1 ⟨trivial, rfl, by decide⟩ spaces.1) }
    have text : "# [\r\n \n\t[\"#\\n\",1] \n7" = String.ofList layout.text := rfl
    have read := (laidOut layout).1
    rw [text, read]
    rfl
  · have part : Text.IsPart '\n' "1\n [1,]\n".toList [' ', '[', '1', ',', ']'] :=
      Text.mem_split_iff.mp (by decide)
    exact (refused _).mpr ⟨_, part, by decide, by decide, Json.ofCharsWithin?_eq_none_iff.mp rfl⟩

end Transcript

end Dialogue

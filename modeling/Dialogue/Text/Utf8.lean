/-!
# UTF-8

The bytes of a text, and the text of some bytes where they are well formed.
-/

namespace Dialogue.Text

/-- The bytes of a text, character by character. -/
def utf8 (text : String) : List UInt8 :=
  text.toList.flatMap String.utf8EncodeChar

/-- The text of some bytes, if they are well formed. -/
def ofUtf8? (bytes : List UInt8) : Option String :=
  String.fromUTF8? ⟨bytes.toArray⟩

/-- The bytes of a text are well formed, and they are those of this text only. -/
theorem ofUtf8?_utf8 (text : String) : ofUtf8? (utf8 text) = some text := by
  have bytes : (⟨(utf8 text).toArray⟩ : ByteArray) = text.toByteArray := by
    rw [← String.utf8Encode_toList, List.utf8Encode, utf8]
    apply ByteArray.ext
    rw [List.data_toByteArray]
  rw [ofUtf8?, bytes, String.fromUTF8?, dif_pos text.isValidUTF8]
  rfl

/-- Cut a text after a number of bytes.  There is no cut inside a character or beyond the end. -/
def splitBytes? : Nat → List Char → Option (List Char × List Char)
  | 0, text => some ([], text)
  | _ + 1, [] => none
  | size + 1, c :: rest =>
      if c.utf8Size ≤ size + 1 then
        (splitBytes? (size + 1 - c.utf8Size) rest).map fun (front, back) => (c :: front, back)
      else none

end Dialogue.Text

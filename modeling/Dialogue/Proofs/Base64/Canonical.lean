import Dialogue.Cli.Program
import Dialogue.Proofs.Base64.Decoding
import Dialogue.Proofs.Number.Decimal
/-!
# Captured data

The canonical base64 text of some bytes, bit by bit: their bits are cut into groups of six, the last
of which is filled up with zeros, every group is written as a letter of the standard alphabet, and
the letters are filled up with `=` to a multiple of four.  A captured output is decoded exactly if
it is the canonical text of some bytes.  Any other text is written to a file as it is.
-/

namespace Dialogue.Base64

/-! ### The canonical text -/

/-- The lowest bits of a number, so many of them, the most significant one first. -/
def bits : Nat → Nat → List Bool
  | 0, _ => []
  | count + 1, n => n.testBit count :: bits count n

/-- The number that some bits spell, the most significant one first. -/
def ofBits (bits : List Bool) : Nat :=
  bits.foldl (fun value bit => 2 * value + bit.toNat) 0

/-- The numbers that groups of six bits spell; the last group is filled up with zeros. -/
def sextets : List Bool → List Nat
  | [] => []
  | a :: b :: c :: d :: e :: f :: rest => ofBits [a, b, c, d, e, f] :: sextets rest
  | rest => [ofBits (rest ++ List.replicate (6 - rest.length) false)]

/-- The standard alphabet. -/
def alphabet : List Char :=
  "ABCDEFGHIJKLMNOPQRSTUVWXYZabcdefghijklmnopqrstuvwxyz0123456789+/".toList

/-- The letter of a number below 64. -/
def letter (value : Nat) : Char :=
  alphabet.getD value '='

/-- Letters filled up to a multiple of four. -/
def padded (letters : List Char) : List Char :=
  letters ++ List.replicate ((4 - letters.length % 4) % 4) '='

/-- The letters of the canonical text, with the padding. -/
def canonicalChars (bytes : List UInt8) : List Char :=
  padded ((sextets (bytes.flatMap fun byte => bits 8 byte.toNat)).map letter)

/-- The canonical base64 text of some bytes. -/
def canonical (bytes : List UInt8) : String :=
  String.ofList (canonicalChars bytes)

/-! ### Bits of symbols -/

theorem length_bits (count n : Nat) : (bits count n).length = count := by
  induction count with
  | zero => rfl
  | succ count inductionHypothesis => rw [bits, List.length_cons, inductionHypothesis]

/-- The bits of a number are those of its upper part and those of its lower part. -/
theorem bits_add (high low n : Nat) :
    bits (high + low) n = bits high (n / twoTo low) ++ bits low n := by
  induction high with
  | zero => rw [Nat.zero_add, bits, List.nil_append]
  | succ high inductionHypothesis =>
      have same : (n / twoTo low).testBit high = n.testBit (high + low) :=
        Nat.testBit_div_two_pow n high
      rw [Nat.succ_add, bits, bits, same, inductionHypothesis, List.cons_append]

theorem foldl_bits (count n start : Nat) :
    (bits count n).foldl (fun value bit => 2 * value + bit.toNat) start =
      start * twoTo count + n % twoTo count := by
  induction count generalizing start with
  | zero => simp [bits, Nat.mod_one]
  | succ count inductionHypothesis =>
      have first : (n.testBit count).toNat = n / twoTo count % 2 := Nat.toNat_testBit n count
      have split : n % twoTo (count + 1) = n % twoTo count + twoTo count * (n / twoTo count % 2) :=
        Nat.mod_pow_succ
      have double : twoTo (count + 1) = 2 * twoTo count := Nat.pow_succ'
      rw [bits, List.foldl_cons, inductionHypothesis, first, split, double, Nat.add_mul,
        Nat.add_assoc, Nat.add_comm (n % twoTo count), Nat.mul_comm (twoTo count),
        Nat.mul_comm 2 start, Nat.mul_assoc]

/-- Bits in front of others count for more. -/
theorem ofBits_append_bits (front : List Bool) (count n : Nat) :
    ofBits (front ++ bits count n) = ofBits front * twoTo count + n % twoTo count := by
  rw [ofBits, List.foldl_append, foldl_bits]
  rfl

theorem ofBits_bits (count n : Nat) : ofBits (bits count n) = n % twoTo count := by
  rw [ofBits, foldl_bits, Nat.zero_mul, Nat.zero_add]

/-- Six bits at the front are a group. -/
theorem sextets_append {group : List Bool} (six : group.length = 6) (rest : List Bool) :
    sextets (group ++ rest) = ofBits group :: sextets rest := by
  match group, six with
  | [a, b, c, d, e, f], _ => rfl

/-- Bits of two numbers, the second of which has no more than those. -/
theorem ofBits_pair (high m : Nat) {low n : Nat} (small : n < twoTo low) :
    ofBits (bits high m ++ bits low n) = m % twoTo high * twoTo low + n := by
  rw [ofBits_append_bits, ofBits_bits, Nat.mod_eq_of_lt small]

/-! ### Bits of bytes -/

section
variable (x y z : UInt8)

theorem ofBits_first : ofBits (bits 6 (x.toNat / 4)) = x.toNat / 4 := by
  have small : x.toNat / 4 < twoTo 6 := Nat.div_lt_of_lt_mul x.toNat_lt
  rw [ofBits_bits, Nat.mod_eq_of_lt small]

/-- The bits of three bytes are those of four symbols. -/
theorem sextets_group (rest : List Bool) :
    sextets (bits 8 x.toNat ++ (bits 8 y.toNat ++ (bits 8 z.toNat ++ rest))) =
      x.toNat / 4 :: (x.toNat % 4 * 16 + y.toNat / 16) :: (y.toNat % 16 * 4 + z.toNat / 64) ::
        z.toNat % 64 :: sextets rest := by
  have cut : bits 8 x.toNat ++ (bits 8 y.toNat ++ (bits 8 z.toNat ++ rest)) =
      bits 6 (x.toNat / 4) ++ ((bits 2 x.toNat ++ bits 4 (y.toNat / 16)) ++
        ((bits 4 y.toNat ++ bits 2 (z.toNat / 64)) ++ (bits 6 z.toNat ++ rest))) := by
    rw [bits_add 6 2, bits_add 4 4, bits_add 2 6]
    simp only [List.append_assoc]
  have smallY : y.toNat / 16 < twoTo 4 := Nat.div_lt_of_lt_mul y.toNat_lt
  have smallZ : z.toNat / 64 < twoTo 2 := Nat.div_lt_of_lt_mul z.toNat_lt
  rw [cut, sextets_append (length_bits _ _), sextets_append rfl, sextets_append rfl,
    sextets_append (length_bits _ _), ofBits_first, ofBits_pair 2 _ smallY, ofBits_pair 4 _ smallZ,
    ofBits_bits]

/-- The bits of a last byte, filled up, are those of two symbols. -/
theorem sextets_one : sextets (bits 8 x.toNat) = [x.toNat / 4, x.toNat % 4 * 16] := by
  have cut : bits 8 x.toNat = bits 6 (x.toNat / 4) ++ bits 2 x.toNat := bits_add 6 2 _
  have last : sextets (bits 2 x.toNat) = [ofBits (bits 2 x.toNat ++ bits 4 0)] := rfl
  rw [cut, sextets_append (length_bits _ _), last, ofBits_first,
    ofBits_pair 2 _ (twoTo_pos 4), Nat.add_zero]

/-- The bits of two last bytes, filled up, are those of three symbols. -/
theorem sextets_two : sextets (bits 8 x.toNat ++ bits 8 y.toNat) =
    [x.toNat / 4, x.toNat % 4 * 16 + y.toNat / 16, y.toNat % 16 * 4] := by
  have cut : bits 8 x.toNat ++ bits 8 y.toNat =
      bits 6 (x.toNat / 4) ++ ((bits 2 x.toNat ++ bits 4 (y.toNat / 16)) ++ bits 4 y.toNat) := by
    rw [bits_add 6 2, bits_add 4 4]
    simp only [List.append_assoc]
  have smallY : y.toNat / 16 < twoTo 4 := Nat.div_lt_of_lt_mul y.toNat_lt
  have last : sextets (bits 4 y.toNat) = [ofBits (bits 4 y.toNat ++ bits 2 0)] := rfl
  rw [cut, sextets_append (length_bits _ _), sextets_append rfl, last, ofBits_first,
    ofBits_pair 2 _ smallY, ofBits_pair 4 _ (twoTo_pos 2), Nat.add_zero]

end

/-! ### Bytes of the canonical text -/

theorem utf8EncodeChar_letter {value : Nat} (small : value < 64) :
    String.utf8EncodeChar (letter value) = [symbol value] := by
  have checked : ∀ value < 64, String.utf8EncodeChar (letter value) = [symbol value] := by
    decide +kernel
  exact checked value small

theorem utf8EncodeChar_pad : String.utf8EncodeChar '=' = [pad] := rfl

theorem padded_group (a b c d : Char) (letters : List Char) :
    padded (a :: b :: c :: d :: letters) = a :: b :: c :: d :: padded letters := by
  have same : (letters.length + 1 + 1 + 1 + 1) % 4 = letters.length % 4 := by omega
  simp only [padded, List.length_cons, same, List.cons_append]

/-- The bytes of the canonical text are the encoding. -/
theorem flatMap_canonicalChars (bytes : List UInt8) :
    (canonicalChars bytes).flatMap String.utf8EncodeChar = encode bytes := by
  induction bytes using encode.induct with
  | case1 => rfl
  | case2 x =>
      have second := (lastSecondValue_lt x).1
      rw [canonicalChars, List.flatMap_singleton, sextets_one, encode]
      simp [padded, List.replicate, utf8EncodeChar_letter (firstValue_lt x),
        utf8EncodeChar_letter second, utf8EncodeChar_pad]
  | case3 x y =>
      have third := (lastThirdValue_lt y).1
      rw [canonicalChars, List.flatMap_cons, List.flatMap_singleton, sextets_two, encode]
      simp [padded, utf8EncodeChar_letter (firstValue_lt x),
        utf8EncodeChar_letter (secondValue_lt x y), utf8EncodeChar_letter third, utf8EncodeChar_pad]
  | case4 x y z rest inductionHypothesis =>
      rw [canonicalChars, List.flatMap_cons, List.flatMap_cons, List.flatMap_cons, sextets_group,
        encode, ← inductionHypothesis]
      simp only [List.map_cons, padded_group, List.flatMap_cons,
        utf8EncodeChar_letter (firstValue_lt x), utf8EncodeChar_letter (secondValue_lt x y),
        utf8EncodeChar_letter (thirdValue_lt y z), utf8EncodeChar_letter (fourthValue_lt z)]
      rfl

theorem utf8_canonical (bytes : List UInt8) : Text.utf8 (canonical bytes) = encode bytes := by
  rw [Text.utf8, canonical, String.toList_ofList, flatMap_canonicalChars]

/-- Two texts with the same bytes are the same. -/
theorem eq_of_utf8_eq {one other : String} (same : Text.utf8 one = Text.utf8 other) :
    one = other := by
  have back := Text.ofUtf8?_utf8 one
  rw [same, Text.ofUtf8?_utf8] at back
  exact (Option.some.inj back).symm

/-- A text has the bytes of an encoding exactly if it is the canonical text. -/
theorem utf8_eq_encode_iff {text : String} {bytes : List UInt8} :
    Text.utf8 text = encode bytes ↔ text = canonical bytes := by
  rw [← utf8_canonical]
  exact ⟨eq_of_utf8_eq, congrArg Text.utf8⟩

/-- The bytes of letters and padding. -/
theorem utf8_letters {values : List Nat} (small : ∀ value ∈ values, value < 64) (padding : Nat) :
    Text.utf8 (String.ofList (values.map letter ++ List.replicate padding '=')) =
      values.map symbol ++ List.replicate padding pad := by
  rw [Text.utf8, String.toList_ofList, List.flatMap_append, List.flatMap_replicate,
    utf8EncodeChar_pad, List.flatten_replicate_singleton]
  congr 1
  induction values with
  | nil => rfl
  | cons value others inductionHypothesis =>
      obtain ⟨smallFirst, smallOthers⟩ := List.forall_mem_cons.mp small
      rw [List.map_cons, List.flatMap_cons, utf8EncodeChar_letter smallFirst,
        inductionHypothesis smallOthers, List.map_cons, List.singleton_append]

/-- A text is canonical exactly if it consists of letters in groups of four, the last of which is
filled up with padding and has no bits to spare that are not zero. -/
theorem exists_canonical_iff {text : String} :
    (∃ bytes, text = canonical bytes) ↔ ∃ values padding, Fills values padding ∧
      text.toList = values.map letter ++ List.replicate padding '=' := by
  constructor
  · rintro ⟨bytes, rfl⟩
    obtain ⟨values, padding, fills, same⟩ := exists_fills bytes
    rw [← utf8_canonical, ← utf8_letters fills.small] at same
    exact ⟨values, padding, fills, by rw [eq_of_utf8_eq same, String.toList_ofList]⟩
  · rintro ⟨values, padding, fills, written⟩
    obtain ⟨bytes, same⟩ := fills.exists_encode
    have text_eq : text = String.ofList (values.map letter ++ List.replicate padding '=') := by
      rw [← written, String.ofList_toList]
    refine ⟨bytes, utf8_eq_encode_iff.mp ?_⟩
    rw [text_eq, utf8_letters fills.small, same]

end Dialogue.Base64

namespace Dialogue

open Base64 (canonical Fills letter)

/-! ### Decoding and writing captured data -/

theorem capturedBytes_eq_ok_iff {output : Json} {bytes : List UInt8} :
    Protocol.capturedBytes output = .ok bytes ↔ output = .str (canonical bytes) := by
  cases output with
  | str text =>
      rw [Json.str.injEq, ← Base64.utf8_eq_encode_iff, ← Base64.decode_eq_ok_iff]
      unfold Protocol.capturedBytes
      simp only
      cases Base64.decode (Text.utf8 text) <;> simp
  | null | bool | num | arr | obj => simp [Protocol.capturedBytes]

/-- Captured data is decoded exactly: a value is decoded to some bytes if and only if it is their
canonical text, and so the texts that are decoded are those of letters and padding without gaps or
bits to spare.  A canonical text is written to a file as its bytes, any other one as it is. -/
theorem captured_data_exact (output : Json) (text : String) (bytes : List UInt8) :
    (Protocol.capturedBytes output = .ok bytes ↔ output = .str (canonical bytes)) ∧
      ((∃ bytes, Protocol.capturedBytes (.str text) = .ok bytes) ↔
        ∃ values padding, Fills values padding ∧
          text.toList = values.map letter ++ List.replicate padding '=') ∧
      Cli.outputBytes (.str (canonical bytes)) = bytes ∧
      ((∀ bytes, text ≠ canonical bytes) → Cli.outputBytes (.str text) = Text.utf8 text) := by
  refine ⟨capturedBytes_eq_ok_iff, ?_, ?_, fun other => ?_⟩
  · rw [← Base64.exists_canonical_iff]
    simp only [capturedBytes_eq_ok_iff, Json.str.injEq]
  · have decoded := capturedBytes_eq_ok_iff.mpr (rfl : Json.str (canonical bytes) = _)
    simp only [Cli.outputBytes, decoded]
  · unfold Cli.outputBytes
    simp only
    split
    · next found =>
        have same := capturedBytes_eq_ok_iff.mp found
        exact absurd (Json.str.inj same) (other _)
    · rfl

/-- A text without its padding is written as it is. -/
theorem unpadded_text_written :
    (∀ bytes, "JVBERi0" ≠ canonical bytes) ∧
      Cli.outputBytes (.str "JVBERi0") = Text.utf8 "JVBERi0" := by
  have other : ∀ bytes, "JVBERi0" ≠ canonical bytes := by
    intro bytes same
    have decoded := capturedBytes_eq_ok_iff.mpr (congrArg Json.str same)
    cases decoded
  exact ⟨other, (captured_data_exact .null "JVBERi0" []).2.2.2 other⟩

end Dialogue
